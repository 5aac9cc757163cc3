import Beszel.Machinery.Run
import Beszel.Hub.ExpiryMap

/-!
# Hub/UniversalToken — the endpoint that hands out universal tokens

    enable=1             ──▸ token map, for an hour
    enable=1&permanent=1 ──▸ universal_tokens, one record a user
    enable=0             ──▸ neither

`getUniversalToken` of `internal/hub/hub.go`, and the lookup of a universal token in
`agent_connect.go`.  The token is a key of the map and a field of the records; the endpoint looks
both up by user, and takes whatever token the caller names.
-/

namespace Beszel

open Machinery

namespace UniversalToken

/-! ## The endpoint -/

/-- A record of the `universal_tokens` collection; its `user` has a unique index. -/
structure PermanentToken where
  user : String
  token : String
  deriving DecidableEq, Repr

/-- The clock, the token map and the collection. -/
structure State where
  now : ℤ
  tokenMap : ExpiryMap String
  permanent : List PermanentToken

/-- A hub that has just started, with the permanent tokens of its database. -/
def State.init (permanent : List PermanentToken) : State := ⟨0, [], permanent⟩

/-- `time.Hour`. -/
def hour : ℤ := 3600000000000

/-- The query parameters, and what the request takes from outside: the token `uuid.New` gives and
the outcomes of the database's delete and save. -/
structure Request where
  token : String
  enable : String
  permanent : String
  uuid : String
  deleted : Except String Unit
  saved : Except String Unit

/-- The body of the answer. -/
structure Response where
  token : String
  active : Bool
  permanent : Bool
  deriving DecidableEq, Repr

/-- The token a request enables. -/
def Request.chosen (r : Request) : String := if r.token = "" then r.uuid else r.token

/-- The record of the user. -/
def State.permanentOf (s : State) (user : String) : Option PermanentToken :=
  Table.lookup PermanentToken.user s.permanent user

/-- `deletePermanent`, whose error the endpoint ignores. -/
def deletePermanent (s : State) (user : String) (r : Request) : State :=
  match s.permanentOf user, r.deleted with
  | some _, .ok () => { s with permanent := Table.remove PermanentToken.user s.permanent user }
  | _, _ => s

/-- `upsertPermanent`. -/
def upsertPermanent (s : State) (user token : String) (r : Request) : Except String State :=
  r.saved.map fun _ =>
    match s.permanentOf user with
    | some _ =>
      { s with permanent := Table.replace PermanentToken.user s.permanent ⟨user, token⟩ }
    | none => { s with permanent := s.permanent ++ [⟨user, token⟩] }

/-- `enable=0`. -/
def disable (s : State) (user : String) (r : Request) : State :=
  deletePermanent { s with tokenMap := (s.tokenMap.removebyValue user).2 } user r

/-- `enable=1&permanent=1`. -/
def enablePermanent (s : State) (user : String) (r : Request) :
    State × Except String Response :=
  let s := { s with tokenMap := (s.tokenMap.removebyValue user).2 }
  match upsertPermanent s user r.chosen r with
  | .error err => (s, .error err)
  | .ok s => (s, .ok ⟨r.chosen, true, true⟩)

/-- `enable=1` without `permanent`. -/
def enableEphemeral (s : State) (user : String) (r : Request) : State :=
  let s := deletePermanent s user r
  { s with tokenMap := s.tokenMap.set s.now r.chosen user hour }

/-- The end of a read: a token is active if the map holds it for the user. -/
def readToken (s : State) (user token : String) : State × Response :=
  let found := s.tokenMap.getOk s.now token
  ({ s with tokenMap := found.2 }, ⟨token, found.1 = some user, false⟩)

/-- A read of the map for a user without a permanent token. -/
def readEphemeral (s : State) (user : String) (r : Request) : State × Response :=
  if r.token = "" then
    let found := s.tokenMap.getByValue s.now user
    match found.1 with
    | some (token, _) => ({ s with tokenMap := found.2 }, ⟨token, true, false⟩)
    | none => readToken { s with tokenMap := found.2 } user r.uuid
  else readToken s user r.token

/-- `getUniversalToken`. -/
def getUniversalToken (s : State) (user : String) (r : Request) :
    State × Except String Response :=
  if r.enable = "0" then (disable s user r, .ok ⟨r.token, false, false⟩)
  else if r.enable = "1" then
    if r.permanent = "1" then enablePermanent s user r
    else (enableEphemeral s user r, .ok ⟨r.chosen, true, false⟩)
  else
    match s.permanentOf user with
    | some rec =>
      if r.token = "" ∨ r.token = rec.token then (s, .ok ⟨rec.token, true, true⟩)
      else (s, .ok ⟨r.token, false, false⟩)
    | none => ((readEphemeral s user r).1, .ok (readEphemeral s user r).2)

/-! ## What a token stands for -/

/-- The user a permanent token stands for: the first record with it. -/
def permanentUser (permanent : List PermanentToken) (token : String) : Option String :=
  match permanent.find? (·.token = token) with
  | some rec => if rec.user = "" then none else some rec.user
  | none => none

/-- **The user an agent connecting with the token acts for** — the map first, then the records. -/
def authUser (s : State) (token : String) : Option String :=
  if token = "" ∨ 64 < token.utf8ByteSize then none
  else
    match s.tokenMap.live s.now token with
    | some user => some user
    | none => permanentUser s.permanent token

/-- What can happen: a request, an agent's lookup, the cleaner, time, and Go's walk of the map
taking another order. -/
inductive Event
  | request (user : String) (r : Request)
  | agentConnect (token : String)
  | cleanup
  | advance (ns : ℕ)
  | reorder (entries : ExpiryMap String)

/-- **One event.** -/
def step (s : State) : Event → Option State
  | .request user r => some (getUniversalToken s user r).1
  | .agentConnect token => some { s with tokenMap := (s.tokenMap.getOk s.now token).2 }
  | .cleanup => some { s with tokenMap := s.tokenMap.cleanup s.now }
  | .advance ns => some { s with now := s.now + ns }
  | .reorder entries =>
    if entries.Perm s.tokenMap then some { s with tokenMap := entries } else none

/-! ## One token a user

The endpoint keeps two places in step by user, so a user must have at most one entry in the map,
expired ones included: `RemovebyValue` takes away one.  And it takes the caller's word for the
token, so that must not be another user's. -/

/-- The token a request enables, if it enables one. -/
def Request.enables (r : Request) : Option String := if r.enable = "1" then some r.chosen else none

/-- The user's permanent token goes when it is to be deleted. -/
def Deletes (s : State) (user : String) (r : Request) : Prop :=
  r.deleted = .ok () ∨ s.permanentOf user = none

/-- No other user's token is this one: no entry of the map that has not expired, and no record. -/
def Unclaimed (s : State) (user token : String) : Prop :=
  (∀ e ∈ s.tokenMap, ExpiryMap.expired s.now e = false → e.key = token → e.value = user) ∧
    ∀ rec ∈ s.permanent, rec.token = token → rec.user = user

/-- The requests that keep one token a user: an enabled token is nobody else's; an ephemeral one is
enabled only for a user without another entry in the map; and deletes succeed. -/
def Sole (s : State) : Event → Prop
  | .request user r =>
    (r.enable = "0" → Deletes s user r) ∧
      (r.enable = "1" → Unclaimed s user r.chosen ∧
        (r.permanent ≠ "1" →
          (∀ e ∈ s.tokenMap, e.value = user → e.key = r.chosen) ∧ Deletes s user r))
  | _ => True

/-- What runs of such requests keep: one entry of the map or one record for each user. -/
structure Inv (s : State) : Prop where
  keys : s.tokenMap.KeysUnique
  single : ∀ e ∈ s.tokenMap, ∀ e' ∈ s.tokenMap, e.value = e'.value → e = e'
  records : ∀ r ∈ s.permanent, ∀ r' ∈ s.permanent, r.user = r'.user → r = r'
  apart : ∀ e ∈ s.tokenMap, ∀ r ∈ s.permanent, e.value ≠ r.user

/-- The user has neither an entry nor a record. -/
def Without (s : State) (user : String) : Prop :=
  (∀ e ∈ s.tokenMap, e.value ≠ user) ∧ ∀ r ∈ s.permanent, r.user ≠ user

section Proofs

variable {s s' : State} {user token : String} {r : Request}

theorem inv_init {permanent : List PermanentToken}
    (h : ∀ r ∈ permanent, ∀ r' ∈ permanent, r.user = r'.user → r = r') :
    Inv (State.init permanent) :=
  ⟨fun _ he => absurd he List.not_mem_nil, fun _ he => absurd he List.not_mem_nil, h,
    fun _ he => absurd he List.not_mem_nil⟩

/-- Entries and records that only go keep the invariant. -/
theorem Inv.of_subset (hs : Inv s) (hm : ∀ e ∈ s'.tokenMap, e ∈ s.tokenMap)
    (hp : ∀ r ∈ s'.permanent, r ∈ s.permanent) : Inv s' :=
  ⟨hs.keys.of_subset hm, fun e he e' he' => hs.single e (hm e he) e' (hm e' he'),
    fun r hr r' hr' => hs.records r (hp r hr) r' (hp r' hr'),
    fun e he r hr => hs.apart e (hm e he) r (hp r hr)⟩

/-! ### Who a token stands for -/

theorem permanentUser_eq_some : permanentUser s.permanent token = some user ↔
    ∃ r, s.permanent.find? (·.token = token) = some r ∧ r.user ≠ "" ∧ r.user = user := by
  unfold permanentUser
  split
  · next r hf =>
    rw [hf]
    by_cases h : r.user = "" <;> simp [h]
  · next hf =>
    rw [hf]
    simp

/-- **A token stands for a user by an entry of the map or by a record.** -/
theorem authUser_eq_some : authUser s token = some user ↔
    ¬ (token = "" ∨ 64 < token.utf8ByteSize) ∧ (s.tokenMap.live s.now token = some user ∨
      (s.tokenMap.live s.now token = none ∧ permanentUser s.permanent token = some user)) := by
  unfold authUser
  by_cases h : token = "" ∨ 64 < token.utf8ByteSize
  · simp [h]
  · rcases hl : s.tokenMap.live s.now token with _ | u <;> simp [h]

/-- A user without entry and record has no token. -/
theorem Without.authUser_ne (h : Without s user) (token : String) :
    authUser s token ≠ some user := by
  intro ha
  obtain ⟨-, hl | ⟨-, hp⟩⟩ := authUser_eq_some.mp ha
  · obtain ⟨e, he, -, -, hv⟩ := ExpiryMap.mem_of_live hl
    exact h.1 e he hv
  · obtain ⟨r, hf, -, hu⟩ := permanentUser_eq_some.mp hp
    exact h.2 r (List.mem_of_find?_eq_some hf) hu

/-- **One token a user.** -/
theorem Inv.authUser_unique (hs : Inv s) {token' : String} (h : authUser s token = some user)
    (h' : authUser s token' = some user) : token = token' := by
  have hkey : ∀ {t}, s.tokenMap.live s.now t = some user →
      ∃ e ∈ s.tokenMap, e.key = t ∧ e.value = user := fun hl => by
    obtain ⟨e, he, hk, -, hv⟩ := ExpiryMap.mem_of_live hl
    exact ⟨e, he, hk, hv⟩
  have hrec : ∀ {t}, permanentUser s.permanent t = some user →
      ∃ r ∈ s.permanent, r.token = t ∧ r.user = user := fun hp => by
    obtain ⟨r, hf, -, hu⟩ := permanentUser_eq_some.mp hp
    exact ⟨r, List.mem_of_find?_eq_some hf, by simpa using List.find?_some hf, hu⟩
  obtain ⟨-, hl | ⟨-, hp⟩⟩ := authUser_eq_some.mp h <;>
    obtain ⟨-, hl' | ⟨-, hp'⟩⟩ := authUser_eq_some.mp h'
  · obtain ⟨e, he, rfl, hv⟩ := hkey hl
    obtain ⟨e', he', rfl, hv'⟩ := hkey hl'
    exact congrArg Entry.key (hs.single e he e' he' (hv.trans hv'.symm))
  · obtain ⟨e, he, -, hv⟩ := hkey hl
    obtain ⟨r, hr, -, hu⟩ := hrec hp'
    exact absurd (hv.trans hu.symm) (hs.apart e he r hr)
  · obtain ⟨e, he, -, hv⟩ := hkey hl'
    obtain ⟨r, hr, -, hu⟩ := hrec hp
    exact absurd (hv.trans hu.symm) (hs.apart e he r hr)
  · obtain ⟨r, hr, rfl, hu⟩ := hrec hp
    obtain ⟨r', hr', rfl, hu'⟩ := hrec hp'
    exact congrArg PermanentToken.token (hs.records r hr r' hr' (hu.trans hu'.symm))

/-! ### What a request changes -/

/-- The records after `deletePermanent`. -/
theorem permanent_deletePermanent (s : State) (user : String) (r : Request) :
    (deletePermanent s user r).permanent = s.permanent ∨
      (deletePermanent s user r).permanent =
        Table.remove PermanentToken.user s.permanent user := by
  unfold deletePermanent
  split
  · exact .inr rfl
  · exact .inl rfl

theorem deletePermanent_subset : ∀ rec ∈ (deletePermanent s user r).permanent,
    rec ∈ s.permanent := by
  intro rec hrec
  obtain h | h := permanent_deletePermanent s user r <;> rw [h] at hrec
  · exact hrec
  · exact (Table.mem_remove.mp hrec).1

theorem tokenMap_deletePermanent : (deletePermanent s user r).tokenMap = s.tokenMap := by
  unfold deletePermanent
  split <;> rfl

theorem now_deletePermanent : (deletePermanent s user r).now = s.now := by
  unfold deletePermanent
  split <;> rfl

/-- A delete that succeeds leaves the user no record. -/
theorem Deletes.user_ne (h : Deletes s user r) :
    ∀ rec ∈ (deletePermanent s user r).permanent, rec.user ≠ user := by
  intro rec hrec
  rcases hp : s.permanentOf user with _ | old
  · exact Table.key_ne_of_lookup_eq_none hp rec (deletePermanent_subset rec hrec)
  · have hd : r.deleted = .ok () := h.resolve_right (by simp [hp])
    simp only [deletePermanent, hp, hd] at hrec
    exact (Table.mem_remove.mp hrec).2

/-- A delete leaves every other user's token what it was. -/
theorem permanentUser_deletePermanent {u t : String} (hne : u ≠ user)
    (h : permanentUser s.permanent t = some u) :
    permanentUser (deletePermanent s user r).permanent t = some u := by
  obtain ⟨rec, hf, hu, rfl⟩ := permanentUser_eq_some.mp h
  obtain heq | heq := permanent_deletePermanent s user r
  · rw [heq]
    exact h
  · exact permanentUser_eq_some.mpr ⟨rec, heq ▸ Table.find?_remove hf hne, hu, rfl⟩

/-- The two ways a permanent token is saved: over the user's record, or as a new one. -/
theorem upsertPermanent_eq_ok (h : upsertPermanent s user token r = .ok s') :
    s' = { s with permanent := Table.replace PermanentToken.user s.permanent ⟨user, token⟩ } ∨
      s.permanentOf user = none ∧ s' = { s with permanent := s.permanent ++ [⟨user, token⟩] } := by
  unfold upsertPermanent at h
  rcases hsv : r.saved with err | u <;> rw [hsv] at h
  · cases h
  · obtain rfl := Except.ok.inj h
    split
    · exact .inl rfl
    · next hp => exact .inr ⟨hp, rfl⟩

/-- The records after a permanent token was saved. -/
theorem mem_upsertPermanent (h : upsertPermanent s user token r = .ok s') :
    s'.tokenMap = s.tokenMap ∧ s'.now = s.now ∧
      ∀ rec ∈ s'.permanent, rec = ⟨user, token⟩ ∨ (rec ∈ s.permanent ∧ rec.user ≠ user) := by
  obtain rfl | ⟨hp, rfl⟩ := upsertPermanent_eq_ok h
  · exact ⟨rfl, rfl, fun rec hrec => Table.mem_replace hrec⟩
  · refine ⟨rfl, rfl, fun rec hrec => ?_⟩
    rcases List.mem_append.mp hrec with hrec | hrec
    · exact .inr ⟨hrec, Table.key_ne_of_lookup_eq_none hp rec hrec⟩
    · exact .inl (List.mem_singleton.mp hrec)

/-- A permanent token leaves every other token of every other user what it was. -/
theorem permanentUser_upsertPermanent (h : upsertPermanent s user token r = .ok s') {u t : String}
    (hne : u ≠ user) (ht : t ≠ token) (hp : permanentUser s.permanent t = some u) :
    permanentUser s'.permanent t = some u := by
  obtain ⟨rec, hf, hu, rfl⟩ := permanentUser_eq_some.mp hp
  refine permanentUser_eq_some.mpr ⟨rec, ?_, hu, rfl⟩
  obtain rfl | ⟨-, rfl⟩ := upsertPermanent_eq_ok h
  · exact Table.find?_replace hf hne (by simpa using ht.symm)
  · rw [List.find?_append, hf]
    rfl

/-- **What a request of `user` may change**: entries and records of the user, and the token it
enables. -/
structure Served (user : String) (enabled : Option String) (s s' : State) : Prop where
  now : s'.now = s.now
  keys : s'.tokenMap.KeysUnique
  entries : ∀ e ∈ s'.tokenMap, e ∈ s.tokenMap ∨ (e.value = user ∧ enabled = some e.key)
  keeps : ∀ e ∈ s.tokenMap, ExpiryMap.expired s.now e = false → e.value ≠ user →
    enabled ≠ some e.key → e ∈ s'.tokenMap
  records : ∀ rec ∈ s'.permanent, rec ∈ s.permanent ∨ (rec.user = user ∧ enabled ≠ none)
  tokens : ∀ u t, u ≠ user → enabled ≠ some t → permanentUser s.permanent t = some u →
    permanentUser s'.permanent t = some u

/-- A request that only loses expired entries. -/
theorem Served.of_sheds (hk : s.tokenMap.KeysUnique) {m : ExpiryMap String}
    (h : ExpiryMap.Sheds s.now s.tokenMap m) (user : String) (enabled : Option String) :
    Served user enabled s { s with tokenMap := m } :=
  ⟨rfl, hk.of_subset h.subset, fun e he => .inl (h.subset e he),
    fun e he hexp _ _ => h.keeps e he hexp, fun _ hr => .inl hr, fun _ _ _ _ hp => hp⟩

theorem tokenMap_disable : (disable s user r).tokenMap = (s.tokenMap.removebyValue user).2 :=
  tokenMap_deletePermanent

theorem disable_subset : ∀ rec ∈ (disable s user r).permanent, rec ∈ s.permanent :=
  deletePermanent_subset (s := { s with tokenMap := (s.tokenMap.removebyValue user).2 })

theorem served_disable (hk : s.tokenMap.KeysUnique) : Served user none s (disable s user r) := by
  let s₁ : State := { s with tokenMap := (s.tokenMap.removebyValue user).2 }
  refine ⟨now_deletePermanent, ?_, ?_, ?_, fun rec hrec => .inl (disable_subset rec hrec),
    fun u t hne _ hp => permanentUser_deletePermanent (s := s₁) hne hp⟩
  · rw [tokenMap_disable]
    exact hk.of_subset (ExpiryMap.removebyValue_subset user)
  · rw [tokenMap_disable]
    exact fun e he => .inl (ExpiryMap.removebyValue_subset user e he)
  · rw [tokenMap_disable]
    exact fun e he _ hne _ => hk.mem_removebyValue he hne

theorem served_enablePermanent (hk : s.tokenMap.KeysUnique) :
    Served user (some r.chosen) s (enablePermanent s user r).1 := by
  have hbase : Served user (some r.chosen) s
      { s with tokenMap := (s.tokenMap.removebyValue user).2 } :=
    ⟨rfl, hk.of_subset (ExpiryMap.removebyValue_subset user),
      fun e he => .inl (ExpiryMap.removebyValue_subset user e he),
      fun e he _ hne _ => hk.mem_removebyValue he hne, fun _ hr => .inl hr, fun _ _ _ _ hp => hp⟩
  unfold enablePermanent
  dsimp only
  split
  · exact hbase
  · next s' h =>
    obtain ⟨hm, hnow, hrec⟩ := mem_upsertPermanent h
    refine ⟨hnow, hm ▸ hbase.keys, hm ▸ hbase.entries, hm ▸ hbase.keeps, fun rec hr => ?_,
      fun u t hne ht hp => permanentUser_upsertPermanent h hne (fun h => ht (h ▸ rfl)) hp⟩
    rcases hrec rec hr with rfl | ⟨hr, -⟩
    · exact .inr ⟨rfl, by simp⟩
    · exact .inl hr

theorem served_enableEphemeral (hk : s.tokenMap.KeysUnique) :
    Served user (some r.chosen) s (enableEphemeral s user r) := by
  have hm : (enableEphemeral s user r).tokenMap = s.tokenMap.set s.now r.chosen user hour := by
    simp only [enableEphemeral, tokenMap_deletePermanent, now_deletePermanent]
  refine ⟨now_deletePermanent, hm ▸ hk.set user hour, fun e he => ?_, fun e he _ _ hne => ?_,
    fun rec hrec => .inl (deletePermanent_subset rec hrec),
    fun u t hne _ hp => permanentUser_deletePermanent hne hp⟩
  · rw [hm] at he
    rcases ExpiryMap.mem_set.mp he with rfl | ⟨he, -⟩
    · exact .inr ⟨rfl, rfl⟩
    · exact .inl he
  · rw [hm]
    exact ExpiryMap.mem_set.mpr (.inr ⟨he, fun h => hne (h ▸ rfl)⟩)

/-- A read only loses expired entries. -/
theorem sheds_readEphemeral (hk : s.tokenMap.KeysUnique) (user : String) (r : Request) :
    ∃ m, (readEphemeral s user r).1 = { s with tokenMap := m } ∧
      ExpiryMap.Sheds s.now s.tokenMap m := by
  have h₁ : ExpiryMap.Sheds s.now s.tokenMap (s.tokenMap.getByValue s.now user).2 :=
    hk.sheds_getByValue user
  unfold readEphemeral
  split_ifs
  · dsimp only
    split
    · exact ⟨_, rfl, h₁⟩
    · have h₂ : ExpiryMap.Sheds s.now _ _ := (hk.of_subset h₁.subset).sheds_getOk r.uuid
      exact ⟨_, rfl, fun e he => h₁.subset e (h₂.subset e he),
        fun e he hexp => h₂.keeps e (h₁.keeps e he hexp) hexp⟩
  · exact ⟨_, rfl, hk.sheds_getOk r.token⟩

/-- **Every request of a user.** -/
theorem served (hk : s.tokenMap.KeysUnique) (user : String) (r : Request) :
    Served user r.enables s (getUniversalToken s user r).1 := by
  have hself : Served user r.enables s s := .of_sheds hk (.refl s.now s.tokenMap) user _
  unfold getUniversalToken
  split_ifs with h0 h1 hperm
  · rw [show r.enables = none by simp [Request.enables, h0]]
    exact served_disable hk
  · rw [show r.enables = some r.chosen from if_pos h1]
    exact served_enablePermanent hk
  · rw [show r.enables = some r.chosen from if_pos h1]
    exact served_enableEphemeral hk
  · split
    · split_ifs <;> exact hself
    · obtain ⟨m, heq, hm⟩ := sheds_readEphemeral hk user r
      dsimp only
      rw [heq]
      exact .of_sheds hk hm user _

/-- **A request never takes another user's token away**, if the token it enables is unclaimed. -/
theorem Served.authUser {enabled : Option String} (h : Served user enabled s s')
    (hk : s.tokenMap.KeysUnique) (hfree : ∀ t ∈ enabled, Unclaimed s user t) {u : String}
    (hne : u ≠ user) (ha : authUser s token = some u) : authUser s' token = some u := by
  obtain ⟨hvalid, hcase⟩ := authUser_eq_some.mp ha
  refine authUser_eq_some.mpr ⟨hvalid, ?_⟩
  rw [h.now]
  rcases hcase with hl | ⟨hl, hp⟩
  · obtain ⟨e, he, rfl, hexp, rfl⟩ := ExpiryMap.mem_of_live hl
    refine .inl (h.keys.live_of_mem (h.keeps e he hexp hne fun hen => ?_) hexp)
    exact hne ((hfree _ hen).1 e he hexp rfl)
  · have hen : enabled ≠ some token := fun hen => by
      obtain ⟨r, hf, -, rfl⟩ := permanentUser_eq_some.mp hp
      have htok : r.token = token := by simpa using List.find?_some hf
      exact hne ((hfree _ hen).2 r (List.mem_of_find?_eq_some hf) htok)
    refine .inr ⟨?_, h.tokens u token hne hen hp⟩
    -- an entry that is live now was live before
    by_contra hsome
    obtain ⟨x, hx⟩ := Option.ne_none_iff_exists'.mp hsome
    obtain ⟨e, he, rfl, hexp, -⟩ := ExpiryMap.mem_of_live hx
    rcases h.entries e he with he | ⟨-, hen'⟩
    · exact absurd ((hk.live_of_mem he hexp).symm.trans hl) (by simp)
    · exact hen hen'

/-- A user without a token gets none by another's request, nor by one that enables none. -/
theorem Served.without {enabled : Option String} (h : Served user enabled s s') {u : String}
    (hu : Without s u) (hne : u ≠ user ∨ enabled = none) : Without s' u := by
  refine ⟨fun e he hv => ?_, fun rec hrec hv => ?_⟩
  · rcases h.entries e he with he | ⟨hv', hen⟩
    · exact hu.1 e he hv
    · exact hne.elim (fun hne => hne (hv.symm.trans hv')) fun h => by simp [h] at hen
  · rcases h.records rec hrec with hrec | ⟨hv', hen⟩
    · exact hu.2 rec hrec hv
    · exact hne.elim (fun hne => hne (hv.symm.trans hv')) hen

/-! ### Runs -/

/-- A disabled user has no token left. -/
theorem Inv.without_disable (hs : Inv s) (hd : Deletes s user r) :
    Without (disable s user r) user := by
  refine ⟨?_, Deletes.user_ne (s := { s with tokenMap := (s.tokenMap.removebyValue user).2 }) hd⟩
  rw [tokenMap_disable]
  exact ExpiryMap.value_ne_of_removebyValue fun e he e' he' hv hv' =>
    hs.single e he e' he' (hv.trans hv'.symm)

theorem Inv.enablePermanent (hs : Inv s) : Inv (enablePermanent s user r).1 := by
  have hsub := ExpiryMap.removebyValue_subset (m := s.tokenMap) user
  have hgone := ExpiryMap.value_ne_of_removebyValue (m := s.tokenMap) fun e he e' he'
    (hv : e.value = user) hv' => hs.single e he e' he' (hv.trans hv'.symm)
  have hbase : Inv { s with tokenMap := (s.tokenMap.removebyValue user).2 } :=
    hs.of_subset hsub fun _ h => h
  unfold UniversalToken.enablePermanent
  dsimp only
  split
  · exact hbase
  · next s' h =>
    obtain ⟨hm, -, hrec⟩ := mem_upsertPermanent h
    refine ⟨hm ▸ hbase.keys, hm ▸ hbase.single, fun a ha b hb hu => ?_, fun e he a ha => ?_⟩
    · rcases hrec a ha with rfl | ⟨ha, hne⟩ <;> rcases hrec b hb with rfl | ⟨hb, hne'⟩
      · rfl
      · exact absurd hu.symm hne'
      · exact absurd hu hne
      · exact hs.records a ha b hb hu
    · rw [hm] at he
      rcases hrec a ha with rfl | ⟨ha, -⟩
      · exact hgone e he
      · exact hs.apart e (hsub e he) a ha

theorem Inv.enableEphemeral (hs : Inv s)
    (hone : ∀ e ∈ s.tokenMap, e.value = user → e.key = r.chosen) (hd : Deletes s user r) :
    Inv (enableEphemeral s user r) := by
  have hm : (UniversalToken.enableEphemeral s user r).tokenMap =
      s.tokenMap.set s.now r.chosen user hour := by
    simp only [UniversalToken.enableEphemeral, tokenMap_deletePermanent, now_deletePermanent]
  refine ⟨hm ▸ hs.keys.set user hour, ?_, fun a ha b hb => hs.records a
    (deletePermanent_subset a ha) b (deletePermanent_subset b hb), ?_⟩
  · rw [hm]
    intro e he e' he' hv
    rcases ExpiryMap.mem_set.mp he with rfl | ⟨he, hk⟩ <;>
      rcases ExpiryMap.mem_set.mp he' with rfl | ⟨he', hk'⟩
    · rfl
    · exact absurd (hone e' he' hv.symm) hk'
    · exact absurd (hone e he hv) hk
    · exact hs.single e he e' he' hv
  · rw [hm]
    intro e he a ha
    rcases ExpiryMap.mem_set.mp he with rfl | ⟨he, -⟩
    · exact (hd.user_ne a ha).symm
    · exact hs.apart e he a (deletePermanent_subset a ha)

/-- **Every such request keeps one token a user.** -/
theorem Inv.request (hs : Inv s) (hok : Sole s (.request user r)) :
    Inv (getUniversalToken s user r).1 := by
  unfold getUniversalToken
  split_ifs with h0 h1 hperm
  · refine hs.of_subset (fun e he => ?_) disable_subset
    rw [tokenMap_disable] at he
    exact ExpiryMap.removebyValue_subset user e he
  · exact hs.enablePermanent
  · obtain ⟨hone, hd⟩ := (hok.2 h1).2 hperm
    exact hs.enableEphemeral hone hd
  · split
    · split_ifs <;> exact hs
    · obtain ⟨m, heq, hm⟩ := sheds_readEphemeral hs.keys user r
      dsimp only
      rw [heq]
      exact hs.of_subset hm.subset fun _ h => h

theorem Inv.step (hs : Inv s) {e : Event} (hok : Sole s e) (h : step s e = some s') : Inv s' := by
  rcases e with ⟨user, r⟩ | token | _ | ns | entries
  · obtain rfl := Option.some.inj h
    exact hs.request hok
  · obtain rfl := Option.some.inj h
    exact hs.of_subset (hs.keys.sheds_getOk token).subset fun _ h => h
  · obtain rfl := Option.some.inj h
    exact hs.of_subset (ExpiryMap.sheds_cleanup s.tokenMap s.now).subset fun _ h => h
  · obtain rfl := Option.some.inj h
    exact ⟨hs.keys, hs.single, hs.records, hs.apart⟩
  · obtain ⟨hperm, rfl⟩ := guard_eq_some h
    exact hs.of_subset (fun e he => hperm.mem_iff.mp he) fun _ h => h

/-- The event is a request of the user that enables a token. -/
def Event.Enables (user : String) : Event → Prop
  | .request user' r => user' = user ∧ r.enable = "1"
  | _ => False

/-- A user without a token gets none before the user's next enabling request. -/
theorem Without.step {u : String} (hk : s.tokenMap.KeysUnique) (hu : Without s u) {e : Event}
    (hne : ¬ e.Enables u) (h : step s e = some s') : Without s' u := by
  rcases e with ⟨user, r⟩ | token | _ | ns | entries
  · obtain rfl := Option.some.inj h
    refine (served hk user r).without hu ?_
    by_cases h1 : r.enable = "1"
    · exact .inl fun heq => hne ⟨heq.symm, h1⟩
    · exact .inr (if_neg h1)
  · obtain rfl := Option.some.inj h
    exact ⟨fun e he => hu.1 e ((hk.sheds_getOk token).subset e he), hu.2⟩
  · obtain rfl := Option.some.inj h
    exact ⟨fun e he => hu.1 e ((ExpiryMap.sheds_cleanup _ _).subset e he), hu.2⟩
  · obtain rfl := Option.some.inj h
    exact hu
  · obtain ⟨hperm, rfl⟩ := guard_eq_some h
    exact ⟨fun e he => hu.1 e (hperm.mem_iff.mp he), hu.2⟩

/-- **In every run of such requests**, over any users, tokens and expiries and from any records with
one a user: no user has two tokens; after a request that disables it a user has none until the
user's next enabling request; and a request takes no other user's token away. -/
theorem oneToken_of_sole {permanent : List PermanentToken}
    (hinit : ∀ r ∈ permanent, ∀ r' ∈ permanent, r.user = r'.user → r = r') {es : List Event}
    (hok : Along UniversalToken.step Sole (State.init permanent) es)
    (hrun : run UniversalToken.step (State.init permanent) es = some s) :
    (∀ u t t', authUser s t = some u → authUser s t' = some u → t = t') ∧
      (∀ u r es₁ es₂, es = es₁ ++ .request u r :: es₂ → r.enable = "0" →
        (∀ e ∈ es₂, ¬ e.Enables u) → ∀ t, authUser s t ≠ some u) ∧
      ∀ v r, Sole s (.request v r) → ∀ u t, u ≠ v → authUser s t = some u →
        authUser (getUniversalToken s v r).1 t = some u := by
  have hs : Inv s := inv_of_along (fun hs hok h => hs.step hok h) (inv_init hinit) hok hrun
  refine ⟨fun u t t' => hs.authUser_unique, ?_, fun v r hsole u t hne ha => ?_⟩
  · rintro u r es₁ es₂ rfl h0 hno
    obtain ⟨s₁, hrun₁, hrun₂⟩ := run_append_eq_some.mp hrun
    obtain ⟨s₂, hstep, hrun₂⟩ := run_cons_eq_some.mp hrun₂
    obtain ⟨hok₁, hok₂⟩ := along_append.mp hok
    obtain ⟨hsole, hok₃⟩ := hok₂ s₁ hrun₁
    have hs₁ : Inv s₁ := inv_of_along (fun hs hok h => hs.step hok h) (inv_init hinit) hok₁ hrun₁
    have hu : Without s₂ u := by
      obtain rfl := Option.some.inj hstep
      rw [getUniversalToken, if_pos h0]
      exact hs₁.without_disable (hsole.1 h0)
    -- from here on the user stays without, one event after another
    have hboth : Inv s ∧ Without s u :=
      inv_of_along (I := fun s => Inv s ∧ Without s u)
        (fun h hok hst => ⟨h.1.step hok.1 hst, h.2.step h.1.keys hok.2 hst⟩)
        ⟨hs₁.step hsole hstep, hu⟩ ((hok₃ s₂ hstep).and_forall hno) hrun₂
    exact hboth.2.authUser_ne
  · refine (served hs.keys v r).authUser hs.keys (fun t' ht' => ?_) hne ha
    obtain ⟨h1, rfl⟩ : r.enable = "1" ∧ r.chosen = t' := by simpa [Request.enables] using ht'
    exact (hsole.2 h1).1

end Proofs

/-! ### A few requests -/

/-- A request with all writes succeeding. -/
def exampleRequest (token enable permanent uuid : String) : Request :=
  ⟨token, enable, permanent, uuid, .ok (), .ok ()⟩

/-- A user enables a token and makes it permanent. -/
def exampleEnabling : List Event :=
  [.request "alice" (exampleRequest "" "1" "" "a"),
    .request "alice" (exampleRequest "a" "1" "1" "")]

/-- Disabled after that, the user has no token. -/
theorem oneToken_enable_disable :
    ∃ s, run step (State.init [])
        (exampleEnabling ++ [.request "alice" (exampleRequest "" "0" "" "")]) = some s ∧
      ∀ t, authUser s t ≠ some "alice" := by
  suffices hok : Along step Sole (State.init [])
      (exampleEnabling ++ [.request "alice" (exampleRequest "" "0" "" "")]) from
    ⟨_, rfl, (oneToken_of_sole (fun _ h => absurd h List.not_mem_nil) hok rfl).2.1 "alice"
      (exampleRequest "" "0" "" "") exampleEnabling [] rfl rfl
      fun _ h => absurd h List.not_mem_nil⟩
  have hnone : ∀ {P : Prop} {α : Type} {a : α}, a ∈ [] → P := fun h => absurd h List.not_mem_nil
  refine .cons ⟨fun h => absurd h (by decide), fun _ => ⟨⟨?_, ?_⟩, fun _ => ⟨?_, .inl rfl⟩⟩⟩ rfl ?_
  · exact fun _ => hnone
  · exact fun _ => hnone
  · exact fun _ => hnone
  refine .cons ⟨fun h => absurd h (by decide), fun _ => ⟨⟨?_, ?_⟩, fun h => absurd rfl h⟩⟩ rfl ?_
  · intro e he _ _
    obtain rfl := List.mem_singleton.mp he
    rfl
  · exact fun _ => hnone
  exact .cons ⟨fun _ => .inl rfl, fun h => absurd h (by decide)⟩ rfl trivial

/-- **Each of the three laws fails**: enabled twice, a user has two tokens; disabled then, one is
left; and a user who names another's token takes it over. -/
theorem oneToken_fails :
    (∃ s, run step (State.init [])
        [.request "alice" (exampleRequest "" "1" "" "a"),
          .request "alice" (exampleRequest "" "1" "" "b")] = some s ∧
      authUser s "a" = some "alice" ∧ authUser s "b" = some "alice") ∧
    (∃ s, run step (State.init [])
        [.request "alice" (exampleRequest "" "1" "" "a"),
          .request "alice" (exampleRequest "" "1" "" "b"),
          .request "alice" (exampleRequest "" "0" "" "")] = some s ∧
      authUser s "a" = some "alice") ∧
    ∃ s s', run step (State.init []) [.request "alice" (exampleRequest "" "1" "" "a")] = some s ∧
      authUser s "a" = some "alice" ∧
      step s (.request "bob" (exampleRequest "a" "1" "" "")) = some s' ∧
      authUser s' "a" ≠ some "alice" :=
  ⟨⟨_, rfl, by decide, by decide⟩, ⟨_, rfl, by decide⟩,
    ⟨_, _, rfl, by decide, rfl, by decide⟩⟩

end UniversalToken

end Beszel
