import Beszel.Hub.ExpiryMap
import Beszel.Machinery.Run
import Mathlib.Data.Nat.Basic

/-!
# Hub/ExpiryRaces — the expiry map, used by several goroutines

    GetOk        read ──expired──▸ erase
    GetByValue   walk ──expired──▸ erase
    RemovebyValue walk ──────────▸ erase
    cleanup      clock ──▸ walk ──▸ erase ──▸ erase ──▸ ⋯

Each access to the store is atomic; between two accesses of one operation the other goroutines go
on.  What is erased is a key, whatever is stored under it by then.  What is owed to a key is what
`Set` stored last, until the key or the value is removed.
-/

namespace Beszel

open Machinery

namespace ExpiryMap

namespace Races

/-! ## The goroutines -/

/-- An entry that was stored, at an address of its own. -/
structure Cell (T : Type) extends Entry T where
  ref : ℕ
  deriving DecidableEq

/-- How far a goroutine has come: what is to be stored, the cell whose time is to be checked, with
what was owed when it was read, the cell whose key is to be erased, the time of a cleanup, and the
cells it has not come to. -/
inductive Pc (T : Type)
  | idle
  | setting (key : String) (value : T) (expires : ℤ)
  | checking (owed : Option (Cell T)) (cell : Cell T)
  | erasing (cell : Cell T)
  | cleaning (now : ℤ)
  | sweeping (now : ℤ) (left : List (Cell T))
  deriving DecidableEq

/-- What a lookup answered at which time, and what was owed to its key when the store was read; a
search by value is owed nothing. -/
structure Answer (T : Type) where
  owed : Option (Cell T)
  result : Option (Cell T)
  now : ℤ

/-- The store, the clock and the goroutines, with what is owed to each key and what was answered. -/
structure State (T : Type) where
  store : List (Cell T)
  next : ℕ
  now : ℤ
  pc : ℕ → Pc T
  owed : String → Option (Cell T)
  answers : List (Answer T)

/-- An empty map, at a time. -/
def State.init (T : Type) (now : ℤ) : State T := ⟨[], 0, now, fun _ => .idle, fun _ => none, []⟩

/-- An access of a goroutine; a walk is the order in which the store is walked. -/
inductive Event (T : Type)
  | tick (now : ℤ)
  | set (g : ℕ) (key : String) (value : T) (ttl : ℤ)
  | store (g : ℕ)
  | getOk (g : ℕ) (key : String)
  | getByValue (g : ℕ) (value : T) (walk : List (Cell T))
  | check (g : ℕ)
  | remove (g : ℕ) (key : String)
  | removebyValue (g : ℕ) (value : T) (walk : List (Cell T))
  | cleanup (g : ℕ)
  | getAll (g : ℕ) (walk : List (Cell T))
  | sweep (g : ℕ)
  | erase (g : ℕ)

variable {T : Type}

/-- The key of a cell. -/
abbrev keyOf (c : Cell T) : String := c.key

namespace State

variable (s : State T)

/-- A goroutine goes on. -/
def goTo (g : ℕ) (pc : Pc T) : State T := { s with pc := Function.update s.pc g pc }

/-- A lookup is answered. -/
def answer (owed result : Option (Cell T)) : State T :=
  { s with answers := ⟨owed, result, s.now⟩ :: s.answers }

/-- `store.Set`. -/
def storeSet (key : String) (value : T) (expires : ℤ) : State T :=
  let cell : Cell T := ⟨⟨key, value, expires⟩, s.next⟩
  { s with
    store := Table.store keyOf s.store cell
    next := s.next + 1
    owed := Function.update s.owed key (some cell) }

/-- `store.Remove`, for an entry that is not wanted any more. -/
def erase (key : String) : State T := { s with store := Table.remove keyOf s.store key }

/-- `Remove`. -/
def remove (key : String) : State T :=
  { s.erase key with owed := Function.update s.owed key none }

/-- `store.GetOk`, for `GetOk`. -/
def getOk (g : ℕ) (key : String) : State T :=
  match Table.lookup keyOf s.store key with
  | none => s.answer (s.owed key) none
  | some cell => s.goTo g (.checking (s.owed key) cell)

end State

namespace State

variable [DecidableEq T] (s : State T)

/-- The walk of `GetByValue` up to the first entry with the value. -/
def getByValue (g : ℕ) (value : T) (walk : List (Cell T)) : State T :=
  match walk.find? (·.value = value) with
  | none => s.answer none none
  | some cell => s.goTo g (.checking none cell)

/-- The check whether the entry has expired. -/
def check (g : ℕ) (owed : Option (Cell T)) (cell : Cell T) : State T :=
  if expired s.now cell.toEntry then (s.answer owed none).goTo g (.erasing cell)
  else (s.answer owed (some cell)).goTo g .idle

/-- The walk of `RemovebyValue` up to the first entry with the value; nothing of the value is owed
any more. -/
def removebyValue (g : ℕ) (value : T) (walk : List (Cell T)) : State T :=
  let s := { s with owed := fun key => (s.owed key).filter (·.value ≠ value) }
  match walk.find? (·.value = value) with
  | none => s
  | some cell => s.goTo g (.erasing cell)

/-- **One step.** -/
def step : Event T → Option (State T)
  | .tick now => if s.now ≤ now then some { s with now := now } else none
  | .set g key value ttl =>
    if s.pc g = .idle then some (s.goTo g (.setting key value (s.now + ttl))) else none
  | .store g =>
    match s.pc g with
    | .setting key value expires => some ((s.storeSet key value expires).goTo g .idle)
    | _ => none
  | .getOk g key => if s.pc g = .idle then some (s.getOk g key) else none
  | .getByValue g value walk =>
    if s.pc g = .idle ∧ walk.Perm s.store then some (s.getByValue g value walk) else none
  | .check g =>
    match s.pc g with
    | .checking owed cell => some (s.check g owed cell)
    | _ => none
  | .remove g key => if s.pc g = .idle then some (s.remove key) else none
  | .removebyValue g value walk =>
    if s.pc g = .idle ∧ walk.Perm s.store then some (s.removebyValue g value walk) else none
  | .cleanup g => if s.pc g = .idle then some (s.goTo g (.cleaning s.now)) else none
  | .getAll g walk =>
    match s.pc g with
    | .cleaning now =>
      if walk.Perm s.store then some (s.goTo g (.sweeping now walk)) else none
    | _ => none
  | .sweep g =>
    match s.pc g with
    | .sweeping now (cell :: left) =>
      some ((if expired now cell.toEntry then s.erase cell.key else s).goTo g (.sweeping now left))
    | .sweeping _ [] => some (s.goTo g .idle)
    | _ => none
  | .erase g =>
    match s.pc g with
    | .erasing cell => some ((s.erase cell.key).goTo g .idle)
    | _ => none

/-- The map as it is stored. -/
def entries (s : State T) : ExpiryMap T := s.store.map (·.toEntry)

end State

/-! ## Operations that are not interrupted -/

section Alone

variable {s : State T} {g : ℕ} {key : String}

@[simp] theorem pc_goTo (s : State T) (g : ℕ) (pc : Pc T) : (s.goTo g pc).pc g = pc :=
  Function.update_self _ _ _

/-- A cell is looked up as its entry is. -/
theorem lookup_entries (s : State T) (key : String) :
    Table.lookup Entry.key s.entries key = (Table.lookup keyOf s.store key).map (·.toEntry) := by
  unfold Table.lookup State.entries
  rw [List.find?_map]
  rfl

theorem entries_erase (s : State T) (key : String) :
    (s.erase key).entries = s.entries.remove key := by
  unfold State.entries State.erase ExpiryMap.remove Table.remove
  rw [List.filter_map]
  rfl

variable [DecidableEq T]

theorem step_check {owed : Option (Cell T)} {cell : Cell T} (h : s.pc g = .checking owed cell) :
    s.step (.check g) = some (s.check g owed cell) := by
  simp only [State.step, h]

theorem step_erase {cell : Cell T} (h : s.pc g = .erasing cell) :
    s.step (.erase g) = some ((s.erase cell.key).goTo g .idle) := by
  simp only [State.step, h]

/-- **`Set`.** -/
theorem set_alone (h : s.pc g = .idle) (key : String) (value : T) (ttl : ℤ) :
    ∃ s', run State.step s [.set g key value ttl, .store g] = some s' ∧
      s'.entries = s.entries.set s.now key value ttl := by
  have hset : s.step (.set g key value ttl) =
      some (s.goTo g (.setting key value (s.now + ttl))) := if_pos h
  have hstore : (s.goTo g (.setting key value (s.now + ttl))).step (.store g) =
      some (((s.goTo g (.setting key value (s.now + ttl))).storeSet key value
        (s.now + ttl)).goTo g .idle) := by
    simp only [State.step, pc_goTo]
  refine ⟨_, run_cons_eq_some.mpr ⟨_, hset, (run_singleton _ _).trans hstore⟩, ?_⟩
  exact congrArg (List.cons _) (entries_erase s key)

/-- The check of an entry that was found, and what follows. -/
theorem check_alone {owed : Option (Cell T)} {cell : Cell T} (h : s.pc g = .checking owed cell) :
    ∃ events s' a, run State.step s events = some s' ∧ s'.answers = a :: s.answers ∧
      (a.result, s'.entries) =
        if expired s.now cell.toEntry then (none, s.entries.remove cell.key)
        else (some cell, s.entries) := by
  have hcheck := step_check h
  unfold State.check at hcheck
  by_cases hexp : expired s.now cell.toEntry = true
  · rw [if_pos hexp] at hcheck
    have herase := step_erase (pc_goTo (s.answer owed none) g (.erasing cell))
    refine ⟨[.check g, .erase g], _, ⟨owed, none, s.now⟩,
      run_cons_eq_some.mpr ⟨_, hcheck, (run_singleton _ _).trans herase⟩, rfl, ?_⟩
    rw [if_pos hexp]
    exact Prod.ext rfl (entries_erase s cell.key)
  · rw [if_neg hexp] at hcheck
    refine ⟨[.check g], _, ⟨owed, some cell, s.now⟩, (run_singleton _ _).trans hcheck, rfl, ?_⟩
    rw [if_neg hexp]
    rfl

/-- **`GetOk`.** -/
theorem getOk_alone (h : s.pc g = .idle) (key : String) :
    ∃ events s' a, run State.step s (.getOk g key :: events) = some s' ∧
      s'.answers = a :: s.answers ∧
      (a.result.map (·.value), s'.entries) = ExpiryMap.getOk s.entries s.now key := by
  have hread : s.step (.getOk g key) = some (s.getOk g key) := if_pos h
  unfold State.getOk at hread
  rw [ExpiryMap.getOk, lookup_entries]
  cases hlookup : Table.lookup keyOf s.store key with
  | none =>
    rw [hlookup] at hread
    exact ⟨[], _, ⟨s.owed key, none, s.now⟩, (run_singleton _ _).trans hread, rfl, rfl⟩
  | some cell =>
    rw [hlookup] at hread
    obtain ⟨events, s', a, hrun, hanswers, hcheck⟩ :=
      check_alone (pc_goTo s g (.checking (s.owed key) cell))
    refine ⟨events, s', a, run_cons_eq_some.mpr ⟨_, hread, hrun⟩, hanswers, ?_⟩
    have hkey : cell.key = key := (Table.key_of_lookup hlookup : keyOf cell = key)
    have hnow : (s.goTo g (.checking (s.owed key) cell)).now = s.now := rfl
    rw [hnow] at hcheck
    dsimp only [Option.map_some]
    by_cases hexp : expired s.now cell.toEntry = true
    · rw [if_pos hexp] at hcheck ⊢
      obtain ⟨hresult, hentries⟩ := Prod.mk.inj hcheck
      rw [hresult, hentries, hkey]
      rfl
    · rw [if_neg hexp] at hcheck ⊢
      obtain ⟨hresult, hentries⟩ := Prod.mk.inj hcheck
      rw [hresult, hentries]
      rfl

/-- The walk finds the cell of the entry that a search of the map finds. -/
theorem find?_entries (s : State T) (value : T) :
    s.entries.find? (·.value = value) = (s.store.find? (·.value = value)).map (·.toEntry) := by
  unfold State.entries
  rw [List.find?_map]
  rfl

/-- **`GetByValue`.** -/
theorem getByValue_alone (h : s.pc g = .idle) (value : T) :
    ∃ events s' a, run State.step s (.getByValue g value s.store :: events) = some s' ∧
      s'.answers = a :: s.answers ∧
      (a.result.map fun c => (c.key, c.value), s'.entries) =
        ExpiryMap.getByValue s.entries s.now value := by
  have hread : s.step (.getByValue g value s.store) = some (s.getByValue g value s.store) :=
    if_pos ⟨h, .refl _⟩
  unfold State.getByValue at hread
  rw [ExpiryMap.getByValue, find?_entries]
  cases hfind : s.store.find? (·.value = value) with
  | none =>
    rw [hfind] at hread
    exact ⟨[], _, ⟨none, none, s.now⟩, (run_singleton _ _).trans hread, rfl, rfl⟩
  | some cell =>
    rw [hfind] at hread
    obtain ⟨events, s', a, hrun, hanswers, hcheck⟩ :=
      check_alone (pc_goTo s g (.checking none cell))
    refine ⟨events, s', a, run_cons_eq_some.mpr ⟨_, hread, hrun⟩, hanswers, ?_⟩
    have hnow : (s.goTo g (.checking none cell)).now = s.now := rfl
    rw [hnow] at hcheck
    dsimp only [Option.map_some]
    by_cases hexp : expired s.now cell.toEntry = true
    · rw [if_pos hexp] at hcheck ⊢
      obtain ⟨hresult, hentries⟩ := Prod.mk.inj hcheck
      rw [hresult, hentries]
      rfl
    · rw [if_neg hexp] at hcheck ⊢
      obtain ⟨hresult, hentries⟩ := Prod.mk.inj hcheck
      rw [hresult, hentries]
      rfl

/-- **`RemovebyValue`.** -/
theorem removebyValue_alone (h : s.pc g = .idle) (value : T) :
    ∃ events s', run State.step s (.removebyValue g value s.store :: events) = some s' ∧
      s'.entries = (ExpiryMap.removebyValue s.entries value).2 := by
  have hread : s.step (.removebyValue g value s.store) =
      some (s.removebyValue g value s.store) := if_pos ⟨h, .refl _⟩
  unfold State.removebyValue at hread
  dsimp only at hread
  rw [ExpiryMap.removebyValue, find?_entries]
  cases hfind : s.store.find? (·.value = value) with
  | none =>
    rw [hfind] at hread
    exact ⟨[], _, (run_singleton _ _).trans hread, rfl⟩
  | some cell =>
    rw [hfind] at hread
    have herase := step_erase (pc_goTo
      { s with owed := fun key => (s.owed key).filter (·.value ≠ value) } g (.erasing cell))
    refine ⟨[.erase g], _, run_cons_eq_some.mpr ⟨_, hread, (run_singleton _ _).trans herase⟩, ?_⟩
    exact entries_erase s cell.key

/-- **The sweep of a cleanup** erases the keys of what has expired. -/
theorem sweep_alone (now : ℤ) (left : List (Cell T)) (h : s.pc g = .sweeping now left) :
    ∃ s', run State.step s (left.map fun _ => .sweep g) = some s' ∧
      s'.store = s.store.filter fun c => left.all fun d =>
        !expired now d.toEntry || d.key ≠ c.key := by
  induction left generalizing s with
  | nil => exact ⟨s, rfl, by simp⟩
  | cons cell left ih =>
    have hsweep : s.step (.sweep g) =
        some ((if expired now cell.toEntry then s.erase cell.key else s).goTo g
          (.sweeping now left)) := by
      simp only [State.step, h]
    obtain ⟨s', hrun, hstore⟩ := ih (pc_goTo _ g (.sweeping now left))
    refine ⟨s', run_cons_eq_some.mpr ⟨_, hsweep, hrun⟩, hstore.trans ?_⟩
    by_cases hexp : expired now cell.toEntry = true
    · rw [if_pos hexp]
      change (s.store.filter _).filter _ = _
      rw [List.filter_filter]
      refine List.filter_congr fun c _ => ?_
      have hkey : decide (keyOf c ≠ cell.key) = decide (cell.key ≠ c.key) :=
        decide_eq_decide.mpr ne_comm
      rw [List.all_cons, hexp, Bool.and_comm, hkey]
      rfl
    · rw [if_neg hexp]
      refine List.filter_congr fun c _ => ?_
      rw [List.all_cons, Bool.eq_false_iff.mpr hexp]
      rfl

/-- **`cleanup`**, of a map whose keys are unique. -/
theorem cleanup_alone (h : s.pc g = .idle) (hkeys : (s.store.map keyOf).Nodup) :
    ∃ events s', run State.step s (.cleanup g :: .getAll g s.store :: events) = some s' ∧
      s'.entries = ExpiryMap.cleanup s.entries s.now := by
  have hclean : s.step (.cleanup g) = some (s.goTo g (.cleaning s.now)) := if_pos h
  have hall : (s.goTo g (.cleaning s.now)).step (.getAll g s.store) =
      some ((s.goTo g (.cleaning s.now)).goTo g (.sweeping s.now s.store)) := by
    simp only [State.step, pc_goTo]
    exact if_pos (.refl _)
  obtain ⟨s', hrun, hstore⟩ := sweep_alone s.now s.store
    (pc_goTo (s.goTo g (.cleaning s.now)) g (.sweeping s.now s.store))
  refine ⟨_, s', run_cons_eq_some.mpr ⟨_, hclean, run_cons_eq_some.mpr ⟨_, hall, hrun⟩⟩, ?_⟩
  unfold State.entries ExpiryMap.cleanup
  rw [hstore, List.filter_map]
  refine congrArg (List.map _) (List.filter_congr fun c hc => ?_)
  change (s.store.all fun d => !expired s.now d.toEntry || d.key ≠ c.key) = !expired s.now c.toEntry
  rw [Bool.eq_iff_iff, List.all_eq_true]
  constructor
  · intro hleft
    simpa using hleft c hc
  · intro hexp d hd
    by_cases hkey : d.key = c.key
    · obtain rfl : d = c := List.inj_on_of_nodup_map hkeys hd hc hkey
      rw [hexp, Bool.true_or]
    · simp [hkey]

end Alone

/-! ## What is to hold -/

/-- **A lookup is answered rightly**: what was owed to the key and has not expired is found, and
nothing that is found has expired. -/
structure Answer.Right (a : Answer T) : Prop where
  found : ∀ c ∈ a.owed, expired a.now c.toEntry = false → a.result = some c
  fresh : ∀ c ∈ a.result, expired a.now c.toEntry = false

/-- **The map is right**: a lookup finds what is owed to its key until it expires, and all lookups
were answered rightly. -/
structure State.Right (s : State T) : Prop where
  finds : ∀ key, ∀ c ∈ s.owed key, expired s.now c.toEntry = false →
    (ExpiryMap.getOk s.entries s.now key).1 = some c.value
  answers : ∀ a ∈ s.answers, a.Right

/-- What is stored under the key of a cell is the cell, has expired, or is not owed. -/
def Spares (s : State T) (c : Cell T) : Prop :=
  ∀ d ∈ Table.lookup keyOf s.store c.key,
    d = c ∨ expired s.now d.toEntry = true ∨ s.owed c.key ≠ some d

/-- **An erasure is harmless**: what it erases is what the goroutine had read, has expired, or is
not owed. -/
def Harmless (s : State T) : Event T → Prop
  | .erase g =>
    match s.pc g with
    | .erasing c => Spares s c
    | _ => True
  | .sweep g =>
    match s.pc g with
    | .sweeping now (c :: _) => expired now c.toEntry = true → Spares s c
    | _ => True
  | _ => True

/-! ## The invariant -/

/-- What a goroutine has read was stored, what it is to erase has expired or is not owed, and what
it checks is what was owed. -/
def PcInv (s : State T) : Pc T → Prop
  | .idle | .setting _ _ _ => True
  | .checking owed cell =>
    cell.ref < s.next ∧ ∀ c ∈ owed, expired s.now c.toEntry = false → cell = c
  | .erasing cell =>
    cell.ref < s.next ∧
      (expired s.now cell.toEntry = true ∨ ∀ key, s.owed key ≠ some cell)
  | .cleaning now => now ≤ s.now
  | .sweeping now left => now ≤ s.now ∧ ∀ c ∈ left, c.ref < s.next

/-- **The invariant.**  Each key stands once, and what is owed and has not expired is stored. -/
structure Inv (s : State T) : Prop where
  keys : (s.store.map keyOf).Nodup
  owed : ∀ key, ∀ c ∈ s.owed key, expired s.now c.toEntry = false →
    Table.lookup keyOf s.store key = some c
  stored : ∀ c ∈ s.store, c.ref < s.next
  pc : ∀ g, PcInv s (s.pc g)
  answers : ∀ a ∈ s.answers, a.Right

variable {s s' : State T} {g : ℕ} {c : Cell T} {key : String} {now : ℤ}

theorem inv_init (now : ℤ) : Inv (State.init T now) where
  keys := List.nodup_nil
  owed _ _ hc := nomatch hc
  stored _ hc := nomatch hc
  pc _ := trivial
  answers _ ha := nomatch ha

/-- An entry that has expired stays so. -/
theorem expired_mono {e : Entry T} {now' : ℤ} (hle : now ≤ now') (h : expired now e = true) :
    expired now' e = true := by
  unfold expired at *
  rw [decide_eq_true_eq] at *
  exact lt_of_lt_of_le h hle

theorem not_expired_mono {e : Entry T} {now' : ℤ} (hle : now ≤ now') (h : expired now' e = false) :
    expired now e = false := by
  by_contra hexp
  rw [Bool.not_eq_false] at hexp
  exact absurd ((expired_mono hle hexp).symm.trans h) (by decide)

/-- **The invariant makes the map right.** -/
theorem Inv.right (h : Inv s) : s.Right where
  finds key c hc hexp := by
    rw [ExpiryMap.getOk, lookup_entries, h.owed key c hc hexp]
    dsimp only [Option.map_some]
    rw [if_neg (by simp [hexp])]
  answers := h.answers

/-- **How the goroutines see a step**: time goes on, addresses are given out once, and what becomes
owed is new. -/
structure Onward (s s' : State T) : Prop where
  now : s.now ≤ s'.now
  next : s.next ≤ s'.next
  owed : ∀ key c, s'.owed key = some c → s.owed key = some c ∨ s.next ≤ c.ref

/-- **What a goroutine knows stays true.** -/
theorem PcInv.onward (h : Onward s s') {pc : Pc T} (hpc : PcInv s pc) : PcInv s' pc := by
  cases pc with
  | idle | setting => trivial
  | checking owed cell =>
    refine ⟨lt_of_lt_of_le hpc.1 h.next, fun c hc hexp => hpc.2 c hc ?_⟩
    exact not_expired_mono h.now hexp
  | erasing cell =>
    refine ⟨lt_of_lt_of_le hpc.1 h.next, hpc.2.imp (expired_mono h.now) fun hnot key hkey => ?_⟩
    rcases h.owed key cell hkey with hold | hnew
    · exact hnot key hold
    · exact absurd hpc.1 (Nat.not_lt.mpr hnew)
  | cleaning now => exact le_trans hpc h.now
  | sweeping now left => exact ⟨hpc.1.trans h.now, fun c hc => lt_of_lt_of_le (hpc.2 c hc) h.next⟩

/-- A goroutine goes on to something it may. -/
theorem Inv.goTo (h : Inv s) {pc : Pc T} (hpc : PcInv s pc) : Inv (s.goTo g pc) where
  keys := h.keys
  owed := h.owed
  stored := h.stored
  pc g' := by
    have hself : PcInv s (Function.update s.pc g pc g') := by
      by_cases hg : g' = g
      · subst hg
        rwa [Function.update_self]
      · rw [Function.update_of_ne hg]
        exact h.pc g'
    exact hself.onward ⟨le_rfl, le_rfl, fun _ _ h => .inl h⟩
  answers := h.answers

/-- A lookup is answered rightly. -/
theorem Inv.answer (h : Inv s) {owed result : Option (Cell T)}
    (hright : Answer.Right ⟨owed, result, s.now⟩) : Inv (s.answer owed result) where
  keys := h.keys
  owed := h.owed
  stored := h.stored
  pc g := (h.pc g).onward ⟨le_rfl, le_rfl, fun _ _ h => .inl h⟩
  answers := List.forall_mem_cons.mpr ⟨hright, h.answers⟩

/-- **An entry is stored.** -/
theorem Inv.storeSet (h : Inv s) (key : String) (value : T) (expires : ℤ) :
    Inv (s.storeSet key value expires) where
  keys := Table.nodup_store h.keys
  owed := by
    intro key' c hc hexp
    unfold State.storeSet at hc hexp ⊢
    dsimp only at hc hexp ⊢
    rw [Table.lookup_store]
    by_cases hkey : key' = key
    · subst hkey
      rw [Function.update_self] at hc
      rw [if_pos rfl]
      exact hc
    · rw [Function.update_of_ne hkey] at hc
      rw [if_neg fun heq => hkey heq.symm]
      exact h.owed key' c hc hexp
  stored := by
    intro c hc
    rcases Table.mem_store.mp hc with rfl | ⟨hc, -⟩
    · exact Nat.lt_succ_self _
    · exact (h.stored c hc).trans (Nat.lt_succ_self _)
  pc g := by
    have honward : Onward s (s.storeSet key value expires) := by
      refine ⟨le_rfl, Nat.le_succ _, fun key' c hc => ?_⟩
      unfold State.storeSet at hc
      dsimp only at hc
      by_cases hkey : key' = key
      · subst hkey
        rw [Function.update_self] at hc
        obtain rfl := Option.some.inj hc
        exact .inr le_rfl
      · rw [Function.update_of_ne hkey] at hc
        exact .inl hc
    exact (h.pc g).onward honward
  answers := h.answers

/-- **A key is erased** that nothing live is owed to. -/
theorem Inv.erase (h : Inv s) (key : String)
    (hkey : ∀ c ∈ s.owed key, expired s.now c.toEntry = false → False) : Inv (s.erase key) where
  keys := Table.nodup_remove h.keys
  owed := by
    intro key' c hc hexp
    unfold State.erase
    dsimp only
    rw [Table.lookup_remove, if_neg]
    · exact h.owed key' c hc hexp
    · rintro rfl
      exact hkey c hc hexp
  stored c hc := h.stored c (Table.mem_remove.mp hc).1
  pc g := (h.pc g).onward ⟨le_rfl, le_rfl, fun _ _ h => .inl h⟩
  answers := h.answers

/-- Less is owed. -/
theorem Inv.owe (h : Inv s) {owed : String → Option (Cell T)}
    (hless : ∀ key c, owed key = some c → s.owed key = some c) : Inv { s with owed := owed } where
  keys := h.keys
  owed key c hc := h.owed key c (hless key c hc)
  stored := h.stored
  pc g := by
    have honward : Onward s { s with owed := owed } :=
      ⟨le_rfl, le_rfl, fun key c hc => .inl (hless key c hc)⟩
    exact (h.pc g).onward honward
  answers := h.answers

/-- **A key is removed.** -/
theorem Inv.remove (h : Inv s) (key : String) : Inv (s.remove key) := by
  have hless : ∀ key' c, Function.update s.owed key none key' = some c →
      s.owed key' = some c := by
    intro key' c hc
    by_cases hkey : key' = key
    · subst hkey
      rw [Function.update_self] at hc
      cases hc
    · rwa [Function.update_of_ne hkey] at hc
  refine (h.owe hless).erase key fun c hc _ => ?_
  dsimp only at hc
  rw [Function.update_self] at hc
  cases hc

/-- Nothing live is owed to a key whose erasure is harmless. -/
theorem Inv.not_owed (h : Inv s) (hspares : Spares s c)
    (hc : expired s.now c.toEntry = true ∨ ∀ key, s.owed key ≠ some c) :
    ∀ d ∈ s.owed c.key, expired s.now d.toEntry = false → False := by
  intro d hd hexp
  rcases hspares d (h.owed c.key d hd hexp) with rfl | hexp' | hnot
  · rcases hc with hexp' | hnot
    · exact absurd (hexp'.symm.trans hexp) (by decide)
    · exact hnot _ hd
  · exact absurd (hexp'.symm.trans hexp) (by decide)
  · exact hnot hd

/-- What is read from the store was stored. -/
theorem Inv.walk (h : Inv s) {walk : List (Cell T)} (hwalk : walk.Perm s.store) :
    ∀ c ∈ walk, c.ref < s.next := fun c hc => h.stored c (hwalk.mem_iff.mp hc)

/-- `GetOk` reads the store. -/
theorem Inv.getOk (h : Inv s) (g : ℕ) (key : String) : Inv (s.getOk g key) := by
  unfold State.getOk
  cases hlookup : Table.lookup keyOf s.store key with
  | none =>
    refine h.answer ⟨fun c hc hexp => ?_, fun _ hc => nomatch hc⟩
    exact nomatch hlookup.symm.trans (h.owed key c hc hexp)
  | some cell =>
    refine h.goTo ⟨h.stored cell (Table.mem_of_lookup hlookup), fun c hc hexp => ?_⟩
    exact Option.some.inj (hlookup.symm.trans (h.owed key c hc hexp))

/-- The time of an entry is checked. -/
theorem Inv.check (h : Inv s) {owed : Option (Cell T)} {cell : Cell T}
    (hpc : PcInv s (.checking owed cell)) : Inv (s.check g owed cell) := by
  obtain ⟨hnext, hcell⟩ := hpc
  unfold State.check
  split
  · rename_i hexp
    have hright : Answer.Right ⟨owed, none, s.now⟩ := by
      refine ⟨fun c hc hlive => ?_, fun _ hc => nomatch hc⟩
      rw [hcell c hc hlive] at hexp
      exact absurd (hexp.symm.trans hlive) (by decide)
    exact (h.answer hright).goTo ⟨hnext, .inl hexp⟩
  · rename_i hexp
    have hright : Answer.Right ⟨owed, some cell, s.now⟩ := by
      refine ⟨fun c hc hlive => congrArg some (hcell c hc hlive), ?_⟩
      rintro c ⟨⟩
      exact Bool.eq_false_iff.mpr hexp
    exact (h.answer hright).goTo trivial

/-- What is owed and has not expired is not found after it was erased. -/
theorem not_right_of_erase {pc : Pc T} (hnot : ¬ Spares s c) :
    ¬ ((s.erase c.key).goTo g pc).Right := by
  intro hright
  unfold Spares at hnot
  push Not at hnot
  obtain ⟨d, -, -, hexp, howed⟩ := hnot
  have hfound := hright.finds c.key d howed (Bool.eq_false_iff.mpr hexp)
  have hgone : Table.lookup keyOf ((s.erase c.key).goTo g pc).store c.key = none := by
    refine Table.lookup_remove.trans ?_
    exact if_pos rfl
  rw [ExpiryMap.getOk, lookup_entries, hgone] at hfound
  cases hfound

section Value

variable [DecidableEq T]

/-- `GetByValue` walks the store. -/
theorem Inv.getByValue (h : Inv s) (g : ℕ) (value : T) {walk : List (Cell T)}
    (hwalk : walk.Perm s.store) : Inv (s.getByValue g value walk) := by
  unfold State.getByValue
  split
  · exact h.answer ⟨fun _ hc => (nomatch hc), fun _ hc => (nomatch hc)⟩
  · rename_i cell hfind
    exact h.goTo ⟨h.walk hwalk cell (List.mem_of_find?_eq_some hfind), fun _ hc => (nomatch hc)⟩

/-- `RemovebyValue` walks the store. -/
theorem Inv.removebyValue (h : Inv s) (g : ℕ) (value : T) {walk : List (Cell T)}
    (hwalk : walk.Perm s.store) : Inv (s.removebyValue g value walk) := by
  have howe : Inv { s with owed := fun key => (s.owed key).filter (·.value ≠ value) } :=
    h.owe fun key c hc => (Option.filter_eq_some_iff.mp hc).1
  unfold State.removebyValue
  dsimp only
  split
  · exact howe
  · rename_i cell hfind
    refine howe.goTo ⟨h.walk hwalk cell (List.mem_of_find?_eq_some hfind), .inr ?_⟩
    intro key hkey
    have hne := (Option.filter_eq_some_iff.mp hkey).2
    have heq := List.find?_some hfind
    simp only [decide_eq_true_eq] at hne heq
    exact hne heq

/-- **A step that is harmless keeps the invariant.** -/
theorem Inv.step {e : Event T} (h : Inv s) (hok : Harmless s e) (hs : s.step e = some s') :
    Inv s' := by
  cases e with
  | tick now =>
    obtain ⟨hle, rfl⟩ := guard_eq_some hs
    have honward : Onward s { s with now := now } := ⟨hle, le_rfl, fun _ _ h => .inl h⟩
    exact ⟨h.keys, fun key c hc hexp => h.owed key c hc (not_expired_mono hle hexp), h.stored,
      fun g => (h.pc g).onward honward, h.answers⟩
  | set g key value ttl =>
    obtain ⟨-, rfl⟩ := guard_eq_some hs
    exact h.goTo trivial
  | store g =>
    unfold State.step at hs
    dsimp only at hs
    split at hs
    · obtain rfl := Option.some.inj hs
      exact (h.storeSet _ _ _).goTo trivial
    · cases hs
  | getOk g key =>
    obtain ⟨-, rfl⟩ := guard_eq_some hs
    exact h.getOk g key
  | getByValue g value walk =>
    obtain ⟨⟨-, hwalk⟩, rfl⟩ := guard_eq_some hs
    exact h.getByValue g value hwalk
  | check g =>
    unfold State.step at hs
    dsimp only at hs
    split at hs
    · rename_i owed cell hpc
      obtain rfl := Option.some.inj hs
      exact h.check (hpc ▸ h.pc g)
    · cases hs
  | remove g key =>
    obtain ⟨-, rfl⟩ := guard_eq_some hs
    exact h.remove key
  | removebyValue g value walk =>
    obtain ⟨⟨-, hwalk⟩, rfl⟩ := guard_eq_some hs
    exact h.removebyValue g value hwalk
  | cleanup g =>
    obtain ⟨-, rfl⟩ := guard_eq_some hs
    have hpc : PcInv s (.cleaning s.now) := le_refl s.now
    exact h.goTo hpc
  | getAll g walk =>
    unfold State.step at hs
    dsimp only at hs
    split at hs
    · rename_i now hpc
      obtain ⟨hwalk, rfl⟩ := guard_eq_some hs
      have hnow : PcInv s (.cleaning now) := hpc ▸ h.pc g
      exact h.goTo ⟨hnow, h.walk hwalk⟩
    · cases hs
  | sweep g =>
    unfold State.step at hs
    dsimp only at hs
    unfold Harmless at hok
    dsimp only at hok
    have hpcg := h.pc g
    split at hs
    · rename_i now cell left hpc
      obtain rfl := Option.some.inj hs
      rw [hpc] at hok hpcg
      obtain ⟨hnow, hleft⟩ := hpcg
      have hleft' := fun c hc => hleft c (List.mem_cons_of_mem cell hc)
      split
      · rename_i hexp
        refine (h.erase _ (h.not_owed (hok hexp) (.inl (expired_mono hnow hexp)))).goTo ?_
        exact ⟨hnow, hleft'⟩
      · exact h.goTo ⟨hnow, hleft'⟩
    · obtain rfl := Option.some.inj hs
      exact h.goTo trivial
    · cases hs
  | erase g =>
    unfold State.step at hs
    dsimp only at hs
    unfold Harmless at hok
    dsimp only at hok
    have hpcg := h.pc g
    split at hs
    · rename_i cell hpc
      obtain rfl := Option.some.inj hs
      rw [hpc] at hok hpcg
      exact (h.erase _ (h.not_owed hok hpcg.2)).goTo trivial
    · cases hs

/-- **A step that is not harmless loses an entry.** -/
theorem not_right_of_not_harmless {e : Event T} (hnot : ¬ Harmless s e) :
    ∃ s', s.step e = some s' ∧ ¬ s'.Right := by
  cases e with
  | erase g =>
    unfold Harmless at hnot
    dsimp only at hnot
    unfold State.step
    dsimp only
    split at hnot
    · exact ⟨_, rfl, not_right_of_erase hnot⟩
    · exact absurd trivial hnot
  | sweep g =>
    unfold Harmless at hnot
    dsimp only at hnot
    unfold State.step
    dsimp only
    split at hnot
    · rename_i now cell left hpc
      obtain ⟨hexp, hnot⟩ := Classical.not_imp.mp hnot
      rw [hpc]
      refine ⟨_, rfl, ?_⟩
      rw [if_pos hexp]
      exact not_right_of_erase hnot
    · exact absurd trivial hnot
  | tick | set | store | getOk | getByValue | check | remove | removebyValue | cleanup | getAll =>
    exact absurd trivial hnot

/-- **What is owed is found at every moment, and all lookups are answered rightly, if and only if
every erasure is harmless**, in whatever order the goroutines go on. -/
theorem right_iff_harmless (now : ℤ) (events : List (Event T)) :
    (∀ earlier, earlier <+: events → ∀ s ∈ run State.step (State.init T now) earlier, s.Right) ↔
      Along State.step Harmless (State.init T now) events :=
  forall_prefix_iff_along (I := Inv) (fun h => h.right) (fun h hok hs => h.step hok hs)
    (fun _ hnot => not_right_of_not_harmless hnot) (inv_init now)

end Value

/-! ### An entry that is set again while it is looked up -/

/-- One goroutine finds that a key has expired, another one sets it again, the first one erases
it. -/
def setAgain : List (Event String) :=
  [.set 0 "key" "old" 1, .store 0, .tick 5, .getOk 1 "key", .check 1, .set 0 "key" "new" 9,
    .store 0, .erase 1]

/-- **An entry that was just set is not found.** -/
theorem not_right_set_again :
    ¬ ∀ (now : ℤ) (events : List (Event String)),
      ∀ s ∈ run State.step (State.init String now) events, s.Right := by
  intro h
  have hlost : (run State.step (State.init String 0) setAgain).map (fun s =>
      (s.owed "key", s.now, (ExpiryMap.getOk s.entries s.now "key").1)) =
      some (some ⟨⟨"key", "new", 14⟩, 1⟩, 5, none) := by
    decide +kernel
  obtain ⟨s, hs, hlost⟩ := Option.map_eq_some_iff.mp hlost
  injection hlost with howed hlost
  injection hlost with hnow hnone
  have hfound := (h 0 setAgain s hs).finds "key" _ howed (by rw [hnow]; decide)
  rw [hnone] at hfound
  cases hfound

end Races

end ExpiryMap

end Beszel
