import Beszel.Machinery.Run

/-!
# Hub/FirstUser — setting up the first user

    start ──▸ counted ──▸ checked ──▸ bound ──▸ userSaved ──▸ superuserSaved ──▸ 200
      ╰─────────┴──────── 403 ────────┴ 400 ──────╯ 500 ─────────╯ 500 ────────────╯

`CreateFirstUser` of `internal/users/users.go`.  Two reads stand before three writes, to two
collections and without a transaction, and any number of requests are between them at a time: the
machine takes one call to the database of one request a step.
-/

namespace Beszel

open Machinery

namespace FirstUser

/-! ## The data -/

/-- `migrations.TempAdminEmail`. -/
def tempAdminEmail : String := "_@b.b"

/-- A record of the `users` collection. -/
structure User where
  email : String
  password : String
  role : String
  verified : Bool
  deriving DecidableEq, Repr

/-- A record of `core.CollectionNameSuperusers`. -/
structure Superuser where
  id : ℕ
  email : String
  password : String
  deriving DecidableEq, Repr

/-- The two collections. -/
structure Db where
  users : List User
  superusers : List Superuser
  deriving DecidableEq, Repr

/-- The body of a request. -/
structure Data where
  email : String
  password : String
  deriving DecidableEq, Repr

/-- The status of the answer, and its text under the key `err` or `msg`. -/
inductive Response
  | err (status : ℕ) (text : String)
  | msg (status : ℕ) (text : String)
  deriving DecidableEq, Repr

/-- Where a request is: it keeps the record of the superuser that it found. -/
inductive Request
  | start
  | counted
  | checked (temp : Superuser)
  | bound (temp : Superuser) (data : Data)
  | userSaved (temp : Superuser) (data : Data)
  | superuserSaved (temp : Superuser) (data : Data)
  | done (response : Response)
  deriving DecidableEq, Repr

/-- A call and its outcome; `some err` is an error. -/
inductive Call
  | countRecords (err : Option String)
  | findAllRecords (err : Option String)
  | bindBody (body : Except String Data)
  | saveUser (err : Option String)
  | saveSuperuser (id : ℕ) (err : Option String)
  | delete (err : Option String)

/-- The collections and the requests. -/
structure State where
  db : Db
  requests : List Request
  deriving DecidableEq, Repr

/-! ## The function -/

/-- 403. -/
def forbidden : Request := .done (.err 403 "Forbidden")

/-- 400. -/
def badRequest (text : String) : Request := .done (.err 400 text)

/-- 500. -/
def failed (text : String) : Request := .done (.err 500 text)

/-- 200. -/
def created : Request := .done (.msg 200 "User created")

/-- The user that a request creates. -/
def Data.user (data : Data) : User := ⟨data.email, data.password, "admin", true⟩

/-- The superuser that a request creates. -/
def Data.superuser (data : Data) (id : ℕ) : Superuser := ⟨id, data.email, data.password⟩

/-- The count of the users is read. -/
def countUsers (db : Db) (err : Option String) : Request :=
  if err.isSome ∨ 0 < db.users.length then forbidden else .counted

/-- The superusers are read. -/
def findSuperusers (db : Db) (err : Option String) : Request :=
  match err, db.superusers with
  | none, [temp] => if temp.email ≠ tempAdminEmail then forbidden else .checked temp
  | _, _ => forbidden

/-- The body is read. -/
def readBody (temp : Superuser) : Except String Data → Request
  | .error text => badRequest text
  | .ok data => if data.email = "" ∨ data.password = "" then badRequest "Bad request"
      else .bound temp data

/-- The user is saved; its e-mail has a unique index. -/
def saveUser (db : Db) (temp : Superuser) (data : Data) : Option String → Option (Db × Request)
  | some text => some (db, failed text)
  | none => if ∀ u ∈ db.users, u.email ≠ data.email then
      some ({ db with users := db.users ++ [data.user] }, .userSaved temp data) else none

/-- The superuser is saved; its id and e-mail have unique indices. -/
def saveSuperuser (db : Db) (temp : Superuser) (data : Data) (id : ℕ) :
    Option String → Option (Db × Request)
  | some text => some (db, failed text)
  | none => if ∀ a ∈ db.superusers, a.id ≠ id ∧ a.email ≠ data.email then
      some ({ db with superusers := db.superusers ++ [data.superuser id] },
        .superuserSaved temp data) else none

/-- The superuser that was found is deleted. -/
def deleteTemp (db : Db) (temp : Superuser) : Option String → Db × Request
  | some text => (db, failed text)
  | none => ({ db with superusers := db.superusers.filter (·.id ≠ temp.id) }, created)

/-- **`CreateFirstUser`**, one call at a time. -/
def next (db : Db) : Request → Call → Option (Db × Request)
  | .start, .countRecords err => some (db, countUsers db err)
  | .counted, .findAllRecords err => some (db, findSuperusers db err)
  | .checked temp, .bindBody body => some (db, readBody temp body)
  | .bound temp data, .saveUser err => saveUser db temp data err
  | .userSaved temp data, .saveSuperuser id err => saveSuperuser db temp data id err
  | .superuserSaved temp _, .delete err => some (deleteTemp db temp err)
  | _, _ => none

/-- A call of the `i`-th request. -/
def step (s : State) (e : ℕ × Call) : Option State :=
  s.requests[e.1]?.bind fun r =>
    (next s.db r e.2).map fun (db, r') => ⟨db, s.requests.set e.1 r'⟩

/-- `n` requests that have not begun. -/
def State.init (db : Db) (n : ℕ) : State := ⟨db, List.replicate n .start⟩

theorem step_eq_some {s t : State} {e : ℕ × Call} (h : step s e = some t) :
    ∃ r db r', s.requests[e.1]? = some r ∧ next s.db r e.2 = some (db, r') ∧
      t = ⟨db, s.requests.set e.1 r'⟩ := by
  obtain ⟨r, hr, h⟩ := Option.bind_eq_some_iff.mp h
  obtain ⟨⟨db, r'⟩, hnext, rfl⟩ := Option.map_eq_some_iff.mp h
  exact ⟨r, db, r', hr, hnext, rfl⟩

/-! ## Fresh databases -/

/-- No user, and the superuser of the migration alone. -/
def Db.Fresh (db : Db) : Prop :=
  db.users = [] ∧ ∃ temp, db.superusers = [temp] ∧ temp.email = tempAdminEmail

/-- A request that meets no other, and none of whose reads fails, does not come past the checks. -/
def Refused (db : Db) : Prop :=
  ¬ ∃ temp, run step (.init db 1) [(0, .countRecords none), (0, .findAllRecords none)] =
    some ⟨db, [.checked temp]⟩

theorem countUsers_eq_counted {db : Db} {err : Option String} :
    countUsers db err = .counted ↔ err = none ∧ db.users = [] := by
  unfold countUsers forbidden
  cases err with
  | some text => simp
  | none => cases db.users <;> simp

theorem findSuperusers_eq_checked {db : Db} {err : Option String} {temp : Superuser} :
    findSuperusers db err = .checked temp ↔
      err = none ∧ db.superusers = [temp] ∧ temp.email = tempAdminEmail := by
  unfold findSuperusers forbidden
  split
  · next a ha =>
    rw [ha]
    by_cases hemail : a.email = tempAdminEmail <;> simp [hemail] <;> grind
  · next hne =>
    refine ⟨fun h => (nomatch h), fun ⟨herr, htemp, _⟩ => absurd htemp (hne temp herr)⟩

/-- **A fresh database refuses nobody**, and no other one lets anybody through. -/
theorem refused_iff {db : Db} : Refused db ↔ ¬ db.Fresh := by
  have hcount : step (.init db 1) (0, .countRecords none) = some ⟨db, [countUsers db none]⟩ := rfl
  have hfind : step ⟨db, [.counted]⟩ (0, .findAllRecords none) =
      some ⟨db, [findSuperusers db none]⟩ := rfl
  refine not_congr ⟨fun ⟨temp, h⟩ => ?_, fun ⟨husers, temp, htemp, hemail⟩ => ⟨temp, ?_⟩⟩
  · rw [run_cons, hcount, Option.bind_some, run_singleton] at h
    obtain ⟨r, db', r', hr, hnext, heq⟩ := step_eq_some h
    obtain rfl : countUsers db none = r := Option.some.inj hr
    have husers : countUsers db none = .counted := by
      unfold countUsers at hnext ⊢
      split_ifs at hnext ⊢
      · cases hnext
      · rfl
    rw [husers] at hnext
    obtain ⟨rfl, rfl⟩ := Prod.mk.inj (Option.some.inj hnext)
    have hchecked : findSuperusers db none = .checked temp :=
      (List.cons.inj (congrArg State.requests heq)).1.symm
    obtain ⟨-, htemp, hemail⟩ := findSuperusers_eq_checked.mp hchecked
    exact ⟨(countUsers_eq_counted.mp husers).2, temp, htemp, hemail⟩
  · rw [run_cons, hcount, countUsers_eq_counted.mpr ⟨rfl, husers⟩, Option.bind_some, run_singleton,
      hfind, findSuperusers_eq_checked.mpr ⟨rfl, htemp, hemail⟩]

/-! ## Before the first write -/

/-- **A request that has written nothing**, and what it has read of the database. -/
def Early (db₀ : Db) : Request → Prop
  | .start => True
  | .counted => db₀.users = []
  | .checked temp => db₀ = ⟨[], [temp]⟩ ∧ temp.email = tempAdminEmail
  | .bound temp _ => db₀ = ⟨[], [temp]⟩ ∧ temp.email = tempAdminEmail
  | .userSaved _ _ => False
  | .superuserSaved _ _ => False
  | .done (.err _ _) => True
  | .done (.msg _ _) => False

/-- What a request finds fresh was fresh before. -/
def Sees (db₀ db : Db) : Prop :=
  (db.users = [] → db₀.users = []) ∧
    ∀ temp, db.superusers = [temp] → temp.email = tempAdminEmail → db₀.superusers = [temp]

theorem Sees.refl (db : Db) : Sees db db := ⟨id, fun _ h _ => h⟩

section Early

variable {db₀ db db' : Db}

theorem early_countUsers (hsees : Sees db₀ db) (err : Option String) :
    Early db₀ (countUsers db err) := by
  unfold countUsers forbidden
  split_ifs with h
  · trivial
  · rw [not_or, Nat.pos_iff_ne_zero, not_not, List.length_eq_zero_iff] at h
    exact hsees.1 h.2

theorem early_findSuperusers (hsees : Sees db₀ db) (husers : db₀.users = [])
    (err : Option String) : Early db₀ (findSuperusers db err) := by
  unfold findSuperusers forbidden
  split
  · next temp htemp =>
    split_ifs with hemail
    · trivial
    · rw [not_not] at hemail
      obtain ⟨users, superusers⟩ := db₀
      exact ⟨congrArg₂ Db.mk husers (hsees.2 temp htemp hemail), hemail⟩
  · trivial

theorem early_readBody {temp : Superuser} (hr : Early db₀ (.checked temp))
    (body : Except String Data) : Early db₀ (readBody temp body) := by
  unfold readBody badRequest
  cases body with
  | error => trivial
  | ok data =>
    dsimp only
    split_ifs
    · trivial
    · exact hr

/-- **A request that has written nothing writes nothing**, or saves its user. -/
theorem next_early {r r' : Request} {c : Call} (hsees : Sees db₀ db) (hr : Early db₀ r)
    (h : next db r c = some (db', r')) :
    (db' = db ∧ Early db₀ r') ∨
      ∃ temp data, c = .saveUser none ∧ r = .bound temp data ∧
        saveUser db temp data none = some (db', r') := by
  unfold next at h
  split at h
  · next err =>
    obtain ⟨rfl, rfl⟩ := Prod.mk.inj (Option.some.inj h)
    exact .inl ⟨rfl, early_countUsers hsees err⟩
  · next err =>
    obtain ⟨rfl, rfl⟩ := Prod.mk.inj (Option.some.inj h)
    exact .inl ⟨rfl, early_findSuperusers hsees hr err⟩
  · next temp body =>
    obtain ⟨rfl, rfl⟩ := Prod.mk.inj (Option.some.inj h)
    exact .inl ⟨rfl, early_readBody hr body⟩
  · next temp data err =>
    cases err with
    | none => exact .inr ⟨temp, data, rfl, rfl, h⟩
    | some text =>
      obtain ⟨rfl, rfl⟩ := Prod.mk.inj (Option.some.inj h)
      exact .inl ⟨rfl, trivial⟩
  · exact hr.elim
  · exact hr.elim
  · cases h

end Early

/-! ## The request that writes -/

/-- **What the database is while a request writes**, and when it has. -/
inductive Wrote (db₀ : Db) : Db → Request → Prop
  | userSaved (temp : Superuser) (data : Data) (hdb₀ : db₀ = ⟨[], [temp]⟩)
      (htemp : temp.email = tempAdminEmail) :
      Wrote db₀ ⟨[data.user], [temp]⟩ (.userSaved temp data)
  | superuserSaved (temp : Superuser) (data : Data) (id : ℕ) (hdb₀ : db₀ = ⟨[], [temp]⟩)
      (htemp : temp.email = tempAdminEmail) (hid : temp.id ≠ id)
      (hemail : temp.email ≠ data.email) :
      Wrote db₀ ⟨[data.user], [temp, data.superuser id]⟩ (.superuserSaved temp data)
  | created (temp : Superuser) (data : Data) (id : ℕ) (hdb₀ : db₀ = ⟨[], [temp]⟩)
      (htemp : temp.email = tempAdminEmail) (hemail : temp.email ≠ data.email) :
      Wrote db₀ ⟨[data.user], [data.superuser id]⟩ created

section Wrote

variable {db₀ db db' : Db} {r r' : Request} {c : Call}

theorem Wrote.users_ne (h : Wrote db₀ db r) : db.users ≠ [] := by
  cases h <;> exact List.cons_ne_nil _ _

/-- The other requests see no more than was there. -/
theorem Wrote.sees (h : Wrote db₀ db r) : Sees db₀ db := by
  refine ⟨fun husers => absurd husers h.users_ne, fun temp' htemp' hemail' => ?_⟩
  cases h with
  | userSaved temp data hdb₀ htemp =>
    rw [hdb₀]
    exact htemp'
  | superuserSaved temp data id => cases htemp'
  | created temp data id hdb₀ htemp hemail =>
    obtain rfl := (List.cons.inj htemp').1
    exact absurd (htemp.trans hemail'.symm) hemail

/-- The first write. -/
theorem wrote_saveUser {temp : Superuser} {data : Data}
    (hr : Early db₀ (.bound temp data)) (h : saveUser db₀ temp data none = some (db', r')) :
    Wrote db₀ db' r' := by
  obtain ⟨hdb₀, htemp⟩ := hr
  subst hdb₀
  unfold saveUser at h
  obtain ⟨-, heq⟩ := guard_eq_some h
  obtain ⟨rfl, rfl⟩ := Prod.mk.inj heq
  exact .userSaved temp data rfl htemp

/-- A user is saved. -/
def Call.savesUser : Call → Bool
  | .saveUser none => true
  | _ => false

/-- The call is not one of the two whose failure leaves the setup half done, or does not fail. -/
def Call.succeeds : Call → Bool
  | .saveSuperuser _ err => err.isNone
  | .delete err => err.isNone
  | _ => true

/-- The other writes. -/
theorem Wrote.next (hr : Wrote db₀ db r) (hc : c.succeeds = true)
    (h : FirstUser.next db r c = some (db', r')) : Wrote db₀ db' r' := by
  cases hr with
  | userSaved temp data hdb₀ htemp =>
    cases c with
    | saveSuperuser id err =>
      obtain rfl : err = none := Option.isNone_iff_eq_none.mp hc
      obtain ⟨hguard, heq⟩ := guard_eq_some h
      obtain ⟨rfl, rfl⟩ := Prod.mk.inj heq
      obtain ⟨hid, hemail⟩ := hguard temp List.mem_cons_self
      exact .superuserSaved temp data id hdb₀ htemp hid hemail
    | _ => cases h
  | superuserSaved temp data id hdb₀ htemp hid hemail =>
    cases c with
    | delete err =>
      obtain rfl : err = none := Option.isNone_iff_eq_none.mp hc
      obtain ⟨rfl, rfl⟩ := Prod.mk.inj (Option.some.inj h)
      have hfilter : [temp, data.superuser id].filter (·.id ≠ temp.id) = [data.superuser id] := by
        have hne : (data.superuser id).id ≠ temp.id := hid.symm
        simp [hne]
      dsimp only
      rw [hfilter]
      exact .created temp data id hdb₀ htemp hemail
    | _ => cases h
  | created => cases c <;> cases h

end Wrote

/-! ## Main results -/

/-- **A step that disturbs no setup**: a user is saved while there is none, and the two writes after
it do not fail. -/
def Undisturbed (s : State) (e : ℕ × Call) : Prop :=
  (e.2.savesUser = true → s.db.users = []) ∧ e.2.succeeds = true

instance (s : State) (e : ℕ × Call) : Decidable (Undisturbed s e) :=
  inferInstanceAs (Decidable ((e.2.savesUser = true → s.db.users = []) ∧ e.2.succeeds = true))

/-- All requests but the `i`-th have written nothing. -/
def OthersEarly (db₀ : Db) (requests : List Request) (i : ℕ) : Prop :=
  ∀ j, j ≠ i → ∀ r ∈ requests[j]?, Early db₀ r

/-- **The invariant**: the requests have written nothing, or one of them alone has. -/
def Inv (db₀ : Db) (s : State) : Prop :=
  (s.db = db₀ ∧ ∀ r ∈ s.requests, Early db₀ r) ∨
    ∃ i, (∃ r ∈ s.requests[i]?, Wrote db₀ s.db r) ∧ OthersEarly db₀ s.requests i

section Inv

variable {db₀ : Db}

theorem inv_init (db₀ : Db) (n : ℕ) : Inv db₀ (.init db₀ n) := by
  refine Or.inl ⟨rfl, fun r hr => ?_⟩
  obtain rfl := List.eq_of_mem_replicate hr
  trivial

theorem OthersEarly.set_self {requests : List Request} {i : ℕ} (h : OthersEarly db₀ requests i)
    (r : Request) : OthersEarly db₀ (requests.set i r) i := by
  intro j hji
  rw [List.getElem?_set_ne hji.symm]
  exact h j hji

theorem OthersEarly.set {requests : List Request} {i j : ℕ} {r : Request}
    (h : OthersEarly db₀ requests i) (hr : Early db₀ r) :
    OthersEarly db₀ (requests.set j r) i := by
  intro k hki a ha
  rcases eq_or_ne j k with rfl | hjk
  · rw [List.getElem?_set, if_pos rfl] at ha
    obtain rfl := Option.some.inj (Option.ite_none_right_eq_some.mp ha).2
    exact hr
  · rw [List.getElem?_set_ne hjk] at ha
    exact h k hki a ha

theorem others_of_forall {requests : List Request} (h : ∀ r ∈ requests, Early db₀ r) (i : ℕ) :
    OthersEarly db₀ requests i :=
  fun _ _ r hr => h r (List.mem_of_getElem? hr)

/-- **The step lemma.** -/
theorem inv_step {s s' : State} {e : ℕ × Call} (hs : Inv db₀ s)
    (hok : Undisturbed s e) (h : step s e = some s') : Inv db₀ s' := by
  obtain ⟨j, c⟩ := e
  obtain ⟨r, db, r', hr, hnext, rfl⟩ := step_eq_some h
  have hset : (s.requests.set j r')[j]? = some r' :=
    List.getElem?_set_self (List.getElem?_eq_some_iff.mp hr).1
  rcases hs with ⟨rfl, hearly⟩ | ⟨i, ⟨w, hw, hwrote⟩, hothers⟩
  · have hr_early := hearly r (List.mem_of_getElem? hr)
    rcases next_early (.refl _) hr_early hnext with ⟨rfl, hr'⟩ | ⟨temp, data, -, rfl, hsave⟩
    · refine .inl ⟨rfl, fun a ha => ?_⟩
      rcases List.mem_or_eq_of_mem_set ha with ha | rfl
      · exact hearly a ha
      · exact hr'
    · exact .inr ⟨j, ⟨r', hset, wrote_saveUser hr_early hsave⟩,
        (others_of_forall hearly j).set_self r'⟩
  · rcases eq_or_ne j i with rfl | hji
    · -- the next write of the request that writes
      obtain rfl : r = w := Option.some.inj (hr.symm.trans hw)
      exact .inr ⟨j, ⟨r', hset, hwrote.next hok.2 hnext⟩, hothers.set_self r'⟩
    · rcases next_early hwrote.sees (hothers j hji r hr) hnext with
        ⟨rfl, hr'⟩ | ⟨temp, data, rfl, -, -⟩
      · refine .inr ⟨i, ⟨w, ?_, hwrote⟩, hothers.set hr'⟩
        exact (List.getElem?_set_ne hji).trans hw
      · exact absurd (hok.1 rfl) hwrote.users_ne

/-- **The run lemma.** -/
theorem inv_run {n : ℕ} {es : List (ℕ × Call)} {t : State}
    (hok : Along step Undisturbed (.init db₀ n) es) (hrun : run step (.init db₀ n) es = some t) :
    Inv db₀ t :=
  inv_of_along inv_step (inv_init db₀ n) hok hrun

end Inv

/-- A request between two of its writes. -/
def Request.writing : Request → Bool
  | .userSaved _ _ => true
  | .superuserSaved _ _ => true
  | _ => false

/-- A request that was answered with success. -/
def Request.succeeded : Request → Bool
  | .done (.msg _ _) => true
  | _ => false

/-- Nothing has changed and every answer is an error. -/
def Unchanged (db₀ : Db) (t : State) : Prop :=
  t.db = db₀ ∧ ∀ r ∈ t.requests, r.succeeded = false

/-- One new user with the role of an admin, one superuser with its e-mail and none of the migration;
one request alone was answered with success. -/
def SetUp (db₀ : Db) (t : State) : Prop :=
  db₀.Fresh ∧
    (∃ user superuser, t.db = ⟨[user], [superuser]⟩ ∧ user.role = "admin" ∧
      superuser.email = user.email ∧ superuser.email ≠ tempAdminEmail) ∧
    ∃ i : ℕ, t.requests[i]? = some created ∧
      ∀ j, j ≠ i → ∀ r ∈ t.requests[j]?, r.succeeded = false

/-- **The setup is atomic** in a state: unless a request is between two of its writes, nothing has
changed or all is set up, and who refuses further requests has a superuser for a user. -/
def Atomic (db₀ : Db) (t : State) : Prop :=
  (∀ r ∈ t.requests, r.writing = false) →
    (Unchanged db₀ t ∨ SetUp db₀ t) ∧
    (db₀.Fresh → Refused t.db →
      ∃ user ∈ t.db.users, ∃ superuser ∈ t.db.superusers,
        superuser.email = user.email ∧ superuser.email ≠ tempAdminEmail)

theorem Early.not_succeeded {db₀ : Db} {r : Request} (h : Early db₀ r) : r.succeeded = false := by
  unfold Early at h
  split at h <;> first | rfl | exact h.elim

/-- What the invariant says once nobody is writing. -/
theorem unchanged_or_setUp {db₀ : Db} {t : State} (h : Inv db₀ t)
    (hquiet : ∀ r ∈ t.requests, r.writing = false) : Unchanged db₀ t ∨ SetUp db₀ t := by
  rcases h with ⟨hdb, hearly⟩ | ⟨i, ⟨w, hw, hwrote⟩, hothers⟩
  · exact .inl ⟨hdb, fun r hr => (hearly r hr).not_succeeded⟩
  · have hnot : w.writing = false := hquiet w (List.mem_of_getElem? hw)
    right
    obtain ⟨db, requests⟩ := t
    cases hwrote with
    | userSaved => cases hnot
    | superuserSaved => cases hnot
    | created temp data id hdb₀ htemp hemail =>
      refine ⟨⟨by rw [hdb₀], temp, by rw [hdb₀], htemp⟩,
        ⟨data.user, data.superuser id, rfl, rfl, rfl, fun h => hemail (htemp.trans h.symm)⟩,
        i, hw, fun j hj r hr => ?_⟩
      exact (hothers j hj r hr).not_succeeded

/-- **The setup is atomic in every state of a run** of any number of requests, in which a user is
saved only while there is none and neither the superuser's save nor the delete fails. -/
theorem atomic_of_undisturbed (db₀ : Db) (n : ℕ) (es : List (ℕ × Call)) (t : State)
    (hok : Along step Undisturbed (.init db₀ n) es)
    (hrun : run step (.init db₀ n) es = some t) : Atomic db₀ t := by
  intro hquiet
  have houtcome := unchanged_or_setUp (inv_run hok hrun) hquiet
  refine And.intro houtcome fun hfresh hrefused => ?_
  rcases houtcome with ⟨hdb, -⟩ | ⟨-, ⟨user, superuser, hdb, -, hemail, hne⟩, -⟩
  · rw [hdb, refused_iff] at hrefused
    exact absurd hfresh hrefused
  · rw [hdb]
    exact ⟨user, List.mem_cons_self, superuser, List.mem_cons_self, hemail, hne⟩

/-- The database after the migration. -/
def migrated : Db := ⟨[], [⟨0, tempAdminEmail, "random"⟩]⟩

/-- Two requests, of which the second counts before the first saves. -/
theorem atomic_of_undisturbed_two :
    Atomic migrated ⟨⟨[⟨"a@b.c", "password", "admin", true⟩], [⟨1, "a@b.c", "password"⟩]⟩,
      [created, forbidden]⟩ := by
  refine atomic_of_undisturbed migrated 2
    [(0, .countRecords none), (0, .findAllRecords none), (1, .countRecords none),
      (0, .bindBody (.ok ⟨"a@b.c", "password"⟩)), (0, .saveUser none), (0, .saveSuperuser 1 none),
      (1, .findAllRecords none), (0, .delete none)] _ ?_ ?_
  · decide +kernel
  · decide +kernel

/-- The superuser's save fails: the user is there without a superuser, and nobody else comes
through. -/
theorem not_atomic_migrated :
    ∃ t, run step (.init migrated 1)
        [(0, .countRecords none), (0, .findAllRecords none),
          (0, .bindBody (.ok ⟨"a@b.c", "password"⟩)), (0, .saveUser none),
          (0, .saveSuperuser 1 (some "database is locked"))] = some t ∧
      ¬ Atomic migrated t ∧ Refused t.db ∧
        ∀ user ∈ t.db.users, ∀ superuser ∈ t.db.superusers, superuser.email ≠ user.email := by
  refine ⟨⟨⟨[⟨"a@b.c", "password", "admin", true⟩], migrated.superusers⟩,
    [failed "database is locked"]⟩, by decide +kernel, fun h => ?_, ?_, by decide +kernel⟩
  · obtain ⟨⟨hdb, -⟩ | ⟨-, ⟨user, superuser, hdb, -, hemail, -⟩, -⟩, -⟩ := h (by decide)
    · exact absurd hdb (by decide +kernel)
    · injection hdb with husers hsuperusers
      obtain rfl := (List.cons.inj husers).1
      obtain rfl := (List.cons.inj hsuperusers).1
      exact absurd hemail (by decide +kernel)
  · rw [refused_iff]
    exact fun h => nomatch h.1

end FirstUser

end Beszel
