import Beszel.Machinery.Table
import Mathlib.Order.Basic
import Mathlib.Data.Int.Order.Basic

/-!
# Hub/ExpiryMap — a map whose entries expire

`internal/hub/expirymap/expirymap.go`.  An entry that has expired stays in the map until a lookup or
the hourly cleanup comes across it.  The searches by value walk the map in Go's iteration order and
stop at the first entry with the value, expired or not; here the entries are a list in the order of
the walk.  Times are in nanoseconds.
-/

namespace Beszel

open Machinery

/-- `val[T]` under its key. -/
structure Entry (T : Type) where
  key : String
  value : T
  expires : ℤ
  deriving DecidableEq, Repr

/-- The entries of the map, each key once. -/
abbrev ExpiryMap (T : Type) := List (Entry T)

namespace ExpiryMap

variable {T : Type} (m : ExpiryMap T) (now : ℤ)

/-- The test `expires.Before(now)`. -/
def expired (e : Entry T) : Bool := e.expires < now

/-- `Set`. -/
def set (key : String) (value : T) (ttl : ℤ) : ExpiryMap T :=
  Table.store Entry.key m ⟨key, value, now + ttl⟩

/-- `Remove`. -/
def remove (key : String) : ExpiryMap T := Table.remove Entry.key m key

/-- `GetOk`: an expired entry is removed and not found. -/
def getOk (key : String) : Option T × ExpiryMap T :=
  match Table.lookup Entry.key m key with
  | none => (none, m)
  | some e => if expired now e then (none, m.remove key) else (some e.value, m)

/-- `GetByValue`: the walk ends at the first entry with the value, also if that has expired. -/
def getByValue [DecidableEq T] (value : T) : Option (String × T) × ExpiryMap T :=
  match m.find? (·.value = value) with
  | none => (none, m)
  | some e => if expired now e then (none, m.remove e.key) else (some (e.key, e.value), m)

/-- `RemovebyValue`: the first entry with the value goes, expired or not. -/
def removebyValue [DecidableEq T] (value : T) : Option T × ExpiryMap T :=
  match m.find? (·.value = value) with
  | none => (none, m)
  | some e => (some e.value, m.remove e.key)

/-- `cleanup`. -/
def cleanup : ExpiryMap T := m.filter fun e => !expired now e

/-- What the key stands for now. -/
def live (key : String) : Option T := (m.getOk now key).1

/-- Each key stands once. -/
def KeysUnique : Prop := ∀ e ∈ m, ∀ e' ∈ m, e.key = e'.key → e = e'

variable {m now} {e : Entry T} {key : String} {value : T}

/-! ## What is live -/

/-- **A key is live exactly if its entry has not expired.** -/
theorem live_eq_some :
    m.live now key = some value ↔
      ∃ e, Table.lookup Entry.key m key = some e ∧ expired now e = false ∧ e.value = value := by
  unfold live getOk
  rcases Table.lookup Entry.key m key with _ | e
  · simp
  · rcases h : expired now e with _ | _ <;> simp [h]

theorem mem_of_live (h : m.live now key = some value) :
    ∃ e ∈ m, e.key = key ∧ expired now e = false ∧ e.value = value := by
  obtain ⟨e, hl, hexp, hv⟩ := live_eq_some.mp h
  exact ⟨e, Table.mem_of_lookup hl, Table.key_of_lookup hl, hexp, hv⟩

/-- In a map, membership decides what is live. -/
theorem KeysUnique.live_of_mem (hm : KeysUnique m) (he : e ∈ m) (hexp : expired now e = false) :
    m.live now e.key = some e.value := by
  refine live_eq_some.mpr ?_
  rcases hl : Table.lookup Entry.key m e.key with _ | e'
  · exact absurd rfl (Table.key_ne_of_lookup_eq_none hl e he)
  · obtain rfl : e' = e := hm e' (Table.mem_of_lookup hl) e he (Table.key_of_lookup hl)
    exact ⟨e', rfl, hexp, rfl⟩

/-! ## Keys stay unique -/

theorem KeysUnique.of_subset {m' : ExpiryMap T} (hm : KeysUnique m) (h : ∀ e ∈ m', e ∈ m) :
    KeysUnique m' := fun e he e' he' => hm e (h e he) e' (h e' he')

theorem KeysUnique.set (hm : KeysUnique m) (value : T) (ttl : ℤ) :
    KeysUnique (m.set now key value ttl) := by
  intro e he e' he' hk
  rcases Table.mem_store.mp he with rfl | ⟨he, hne⟩ <;>
    rcases Table.mem_store.mp he' with rfl | ⟨he', hne'⟩
  · rfl
  · exact absurd hk.symm hne'
  · exact absurd hk hne
  · exact hm e he e' he' hk

/-! ## What the operations leave -/

theorem mem_set {ttl : ℤ} :
    e ∈ m.set now key value ttl ↔ e = ⟨key, value, now + ttl⟩ ∨ (e ∈ m ∧ e.key ≠ key) :=
  Table.mem_store

theorem mem_cleanup : e ∈ m.cleanup now ↔ e ∈ m ∧ expired now e = false := by
  simp [cleanup]

/-- A map that has lost some of its expired entries and nothing else. -/
structure Sheds (now : ℤ) (m m' : ExpiryMap T) : Prop where
  subset : ∀ e ∈ m', e ∈ m
  keeps : ∀ e ∈ m, expired now e = false → e ∈ m'

theorem Sheds.refl (now : ℤ) (m : ExpiryMap T) : Sheds now m m := ⟨fun _ h => h, fun _ h _ => h⟩

/-- Removing the key of an expired entry. -/
theorem KeysUnique.sheds_remove (hm : KeysUnique m) (he : e ∈ m) (hexp : expired now e = true) :
    Sheds now m (m.remove e.key) := by
  refine ⟨fun e' he' => (Table.mem_remove.mp he').1, fun e' he' hlive => ?_⟩
  refine Table.mem_remove.mpr ⟨he', fun hk => ?_⟩
  obtain rfl : e' = e := hm e' he' e he hk
  exact absurd (hexp.symm.trans hlive) (by simp)

theorem KeysUnique.sheds_getOk (hm : KeysUnique m) (key : String) :
    Sheds now m (m.getOk now key).2 := by
  unfold getOk
  rcases hl : Table.lookup Entry.key m key with _ | e
  · exact .refl now m
  · obtain rfl : e.key = key := Table.key_of_lookup hl
    dsimp only
    split_ifs with hexp
    · exact hm.sheds_remove (Table.mem_of_lookup hl) hexp
    · exact .refl now m

theorem sheds_cleanup (m : ExpiryMap T) (now : ℤ) : Sheds now m (m.cleanup now) :=
  ⟨fun _ he => (mem_cleanup.mp he).1, fun _ he hexp => mem_cleanup.mpr ⟨he, hexp⟩⟩

section Value

variable [DecidableEq T]

theorem KeysUnique.sheds_getByValue (hm : KeysUnique m) (value : T) :
    Sheds now m (m.getByValue now value).2 := by
  unfold getByValue
  split
  · exact .refl now m
  · next e hf =>
    split_ifs with hexp
    · exact hm.sheds_remove (List.mem_of_find?_eq_some hf) hexp
    · exact .refl now m

theorem removebyValue_subset (value : T) : ∀ e ∈ (m.removebyValue value).2, e ∈ m := by
  intro e he
  unfold removebyValue at he
  split at he
  · exact he
  · exact (Table.mem_remove.mp he).1

/-- Removing by value touches no entry of another value. -/
theorem KeysUnique.mem_removebyValue (hm : KeysUnique m) (he : e ∈ m) (hne : e.value ≠ value) :
    e ∈ (m.removebyValue value).2 := by
  unfold removebyValue
  split
  · exact he
  · next e' hf =>
    refine Table.mem_remove.mpr ⟨he, fun hk => hne ?_⟩
    obtain rfl : e = e' := hm e he e' (List.mem_of_find?_eq_some hf) hk
    simpa using List.find?_some hf

/-- **If a value stands once in the map, removing by value removes it.** -/
theorem value_ne_of_removebyValue (hone : ∀ e ∈ m, ∀ e' ∈ m, e.value = value → e'.value = value →
    e = e') : ∀ e ∈ (m.removebyValue value).2, e.value ≠ value := by
  intro e he hv
  unfold removebyValue at he
  split at he
  · next hf => exact absurd hv (by simpa using List.find?_eq_none.mp hf e he)
  · next e' hf =>
    obtain ⟨he, hk⟩ := Table.mem_remove.mp he
    have hv' : e'.value = value := by simpa using List.find?_some hf
    exact hk (congrArg Entry.key (hone e he e' (List.mem_of_find?_eq_some hf) hv hv'))

instance : Decidable (KeysUnique m) :=
  inferInstanceAs (Decidable (∀ e ∈ m, ∀ e' ∈ m, e.key = e'.key → e = e'))

/-! ## Searches by value -/

/-- **The operations by value are exact**: a value is found if some entry of it has not expired, and
then such an entry is returned; after its removal every entry of it that is left has expired. -/
structure ByValueExact (m : ExpiryMap T) (now : ℤ) (value : T) : Prop where
  found : (m.getByValue now value).1.isSome ↔ ∃ e ∈ m, e.value = value ∧ expired now e = false
  returned : ∀ r ∈ (m.getByValue now value).1, r.2 = value ∧
    ∃ e ∈ m, e.key = r.1 ∧ e.value = value ∧ expired now e = false
  removed : ∀ e ∈ (m.removebyValue value).2, e.value = value → expired now e = true

/-- What is returned is never expired. -/
theorem getByValue_returned {r : String × T} (hr : r ∈ (m.getByValue now value).1) :
    r.2 = value ∧ ∃ e ∈ m, e.key = r.1 ∧ e.value = value ∧ expired now e = false := by
  unfold getByValue at hr
  split at hr
  · cases hr
  · next e hf =>
    have hv : e.value = value := by simpa using List.find?_some hf
    split_ifs at hr with hexp
    · cases hr
    · cases hr
      refine ⟨hv, e, List.mem_of_find?_eq_some hf, rfl, hv, ?_⟩
      exact Bool.eq_false_iff.mpr hexp

/-- The search finds what it looks for where it meets no expired entry of the value. -/
theorem isSome_getByValue (hlive : ∀ e ∈ m, e.value = value → expired now e = false)
    (hex : ∃ e ∈ m, e.value = value) : (m.getByValue now value).1.isSome := by
  obtain ⟨e, he, hv⟩ := hex
  unfold getByValue
  split
  · next hf => exact absurd hv (by simpa using List.find?_eq_none.mp hf e he)
  · next e' hf =>
    have hv' : e'.value = value := by simpa using List.find?_some hf
    rw [if_neg (by simp [hlive e' (List.mem_of_find?_eq_some hf) hv'])]
    rfl

/-- A value that is found has an entry that has not expired. -/
theorem exists_of_isSome_getByValue (h : (m.getByValue now value).1.isSome) :
    ∃ e ∈ m, e.value = value ∧ expired now e = false := by
  obtain ⟨r, hr⟩ := Option.isSome_iff_exists.mp h
  obtain ⟨-, e, he, -, hv, hexp⟩ := getByValue_returned hr
  exact ⟨e, he, hv, hexp⟩

/-- A value all of whose entries have expired is not there. -/
theorem ByValueExact.of_expired (h : ∀ e ∈ m, e.value = value → expired now e = true) :
    ByValueExact m now value where
  found := by
    refine ⟨exists_of_isSome_getByValue, ?_⟩
    rintro ⟨e, he, hv, hexp⟩
    exact absurd ((h e he hv).symm.trans hexp) (by simp)
  returned _ hr := getByValue_returned hr
  removed e he := h e (removebyValue_subset value e he)

/-- A value that stands once. -/
theorem ByValueExact.of_unique
    (h : ∀ e ∈ m, ∀ e' ∈ m, e.value = value → e'.value = value → e = e') :
    ByValueExact m now value where
  found := by
    refine ⟨exists_of_isSome_getByValue, ?_⟩
    rintro ⟨e, he, hv, hexp⟩
    refine isSome_getByValue (fun e' he' hv' => ?_) ⟨e, he, hv⟩
    rw [h e' he' e he hv' hv, hexp]
  returned _ hr := getByValue_returned hr
  removed e he hv := absurd hv (value_ne_of_removebyValue h e he)

/-- **Where the operations by value are exact**, in whatever order the map is walked: where all
entries of the value have expired, or it has one entry at most. -/
theorem byValueExact_iff (hm : KeysUnique m) :
    (∀ m' : ExpiryMap T, m'.Perm m → ByValueExact m' now value) ↔
      (∀ e ∈ m, e.value = value → expired now e = true) ∨
        ∀ e ∈ m, ∀ e' ∈ m, e.value = value → e'.value = value → e = e' := by
  constructor
  · intro h
    by_contra hcontra
    rw [not_or] at hcontra
    push Not at hcontra
    obtain ⟨⟨e₀, he₀, hv₀, hlive⟩, e₁, he₁, e₂, he₂, hv₁, hv₂, hne⟩ := hcontra
    -- an entry of the value besides the one that has not expired
    obtain ⟨e, he, hv, hne⟩ : ∃ e ∈ m, e.value = value ∧ e₀ ≠ e := by
      by_cases h₁ : e₀ = e₁
      · exact ⟨e₂, he₂, hv₂, h₁ ▸ hne⟩
      · exact ⟨e₁, he₁, hv₁, h₁⟩
    have hperm : (e :: m.erase e).Perm m := (List.perm_cons_erase he).symm
    have hwalk : (removebyValue (e :: m.erase e) value).2 = remove (e :: m.erase e) e.key := by
      unfold removebyValue
      rw [List.find?_cons_of_pos (by simpa using hv)]
    have hkey : e₀.key ≠ e.key := fun hk => hne (hm e₀ he₀ e he hk)
    have hleft : e₀ ∈ (removebyValue (e :: m.erase e) value).2 := by
      rw [hwalk]
      exact Table.mem_remove.mpr ⟨hperm.mem_iff.mpr he₀, hkey⟩
    exact hlive ((h _ hperm).removed e₀ hleft hv₀)
  · rintro (hexp | hone) m' hperm
    · exact .of_expired fun e he => hexp e (hperm.mem_iff.mp he)
    · exact .of_unique fun e he e' he' =>
        hone e (hperm.mem_iff.mp he) e' (hperm.mem_iff.mp he')

/-- Two keys of one value, the first of them expired. -/
def twoKeys : ExpiryMap String := [⟨"old", "user", 1⟩, ⟨"new", "user", 9⟩]

/-- While the second key is live the operations are not exact, once both have expired they are. -/
theorem byValueExact_iff_twoKeys :
    (¬ ∀ m' : ExpiryMap String, m'.Perm twoKeys → ByValueExact m' 5 "user") ∧
      ∀ m' : ExpiryMap String, m'.Perm twoKeys → ByValueExact m' 12 "user" := by
  refine ⟨fun h => ?_, (byValueExact_iff (by decide)).mpr (.inl (by decide))⟩
  exact absurd ((byValueExact_iff (by decide)).mp h) (by decide)

/-- **The search stops at the expired entry.** -/
theorem not_byValueExact :
    ¬ ∀ (m : ExpiryMap String) (now : ℤ) (value : String), KeysUnique m →
      ByValueExact m now value := by
  intro h
  have hfound := (h twoKeys 5 "user" (by decide)).found.mpr ⟨⟨"new", "user", 9⟩, by decide⟩
  exact absurd hfound (by decide)

end Value

end ExpiryMap

end Beszel
