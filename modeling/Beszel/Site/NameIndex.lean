import Beszel.Machinery.Writes
import Beszel.Site.SystemStores

/-!
# Site/NameIndex — the systems a page shows, by name

    $allSystemsByName[name] ──▸ a record of $allSystemsById with this name, if there is one

The store by name has one entry for a name, whichever system wrote it last, and `update` and
`remove` clear an entry without looking whose it is; `refresh` clears none.  `KeepsIndex` says which
events leave an index behind, and the theorem that in a run exactly these may come.
-/

namespace Beszel

open Machinery

namespace SystemStores

/-! ## The index -/

/-- **A name is defined if and only if a system has it**, and then leads to such a system. -/
structure Indexed (byId byName : Store) : Prop where
  isSome_iff : ∀ name, (byName name).isSome ↔ ∃ id r, byId id = some r ∧ r.name = name
  maps : ∀ {name r}, byName name = some r → r.name = name ∧ ∃ id, byId id = some r

/-- The index, and what a refresh that got an answer leaves in the store by id. -/
structure NameIndex (p : Page) : Prop where
  indexed : Indexed p.stores.allSystemsById p.stores.allSystemsByName
  answered : ∀ l ∈ p.answer, ∀ id r,
    p.stores.allSystemsById id = some r ↔ r ∈ l.records ∧ r.id = id

/-- The stored records are under their ids and valid. -/
structure Sound (s : Stores) : Prop extends Synced s where
  valid_of_byId : ∀ {id r}, s.allSystemsById id = some r → validateSystemInfo r

variable {byId byName : Store}

/-- The index at one name. -/
def IndexedAt (byId byName : Store) (name : String) : Prop :=
  (∀ r, byName name = some r → r.name = name ∧ ∃ id, byId id = some r) ∧
    ((∃ id r, byId id = some r ∧ r.name = name) → (byName name).isSome)

theorem indexed_iff : Indexed byId byName ↔ ∀ name, IndexedAt byId byName name := by
  constructor
  · intro h name
    exact ⟨fun r hr => h.maps hr, (h.isSome_iff name).mpr⟩
  · intro h
    refine ⟨fun name => ⟨fun hsome => ?_, (h name).2⟩, fun {name r} => (h name).1 r⟩
    obtain ⟨r, hr⟩ := Option.isSome_iff_exists.mp hsome
    obtain ⟨hname, id, hstored⟩ := (h name).1 r hr
    exact ⟨id, r, hstored, hname⟩

/-- A name without an entry is right if no system has it. -/
theorem indexedAt_of_none {name : String} (h : byName name = none) :
    IndexedAt byId byName name ↔ ∀ id r, byId id = some r → r.name ≠ name := by
  unfold IndexedAt
  rw [h]
  constructor
  · intro hat id r hr hname
    cases hat.2 ⟨id, r, hr, hname⟩
  · intro hnone
    refine ⟨fun r hr => (by cases hr), ?_⟩
    rintro ⟨id, r, hr, hname⟩
    exact absurd hname (hnone id r hr)

/-- A name with an entry is right if the entry is a stored record of this name. -/
theorem indexedAt_of_some {id name : String} {r : SystemRecord} (h : byName name = some r)
    (hname : r.name = name) (hstored : byId id = some r) : IndexedAt byId byName name := by
  unfold IndexedAt
  rw [h]
  refine ⟨?_, fun _ => rfl⟩
  rintro _ ⟨⟩
  exact ⟨hname, id, hstored⟩

/-- A name whose entry is kept stays right unless the entry led to the record that is replaced. -/
theorem indexedAt_update_iff (hid : ∀ {id r}, byId id = some r → r.id = id)
    {byName' : Store} {key name : String} {v : Option SystemRecord} (hv : ∀ r ∈ v, r.name ≠ name)
    (hat : IndexedAt byId byName name) (hkept : byName' name = byName name) :
    IndexedAt (Function.update byId key v) byName' name ↔
      ∀ o, byId key = some o → o.name = name → byName name ≠ some o := by
  unfold IndexedAt
  rw [hkept]
  constructor
  · intro hat' o ho hname howns
    obtain ⟨-, id, hstored⟩ := hat'.1 o howns
    by_cases hik : id = key
    · rw [hik, Function.update_self] at hstored
      exact hv o hstored hname
    · rw [Function.update_of_ne hik] at hstored
      exact hik ((hid hstored).symm.trans (hid ho))
  · intro howns
    constructor
    · intro r hr
      obtain ⟨hname, id, hstored⟩ := hat.1 r hr
      refine ⟨hname, id, ?_⟩
      by_cases hik : id = key
      · subst hik
        exact absurd hr (howns r hstored hname)
      · rwa [Function.update_of_ne hik]
    · rintro ⟨id, r, hstored, hname⟩
      refine hat.2 ⟨id, r, ?_, hname⟩
      by_cases hik : id = key
      · rw [hik, Function.update_self] at hstored
        exact absurd hname (hv r hstored)
      · rwa [Function.update_of_ne hik] at hstored

/-- **One entry of each store is written**: the id `key` and the name `n` get the record `v`, after
the name `m` was cleared.  The index survives unless another system had the name `m`, or the entry
of another name led to the record that is replaced. -/
theorem indexed_write_iff (hid : ∀ {id r}, byId id = some r → r.id = id)
    (hindexed : Indexed byId byName) {key m n : String} {v : Option SystemRecord}
    (hv : ∀ r ∈ v, r.name = n) (hnone : v = none → m = n) :
    Indexed (Function.update byId key v) (Function.update (Function.update byName m none) n v) ↔
      ((v = none ∨ m ≠ n) → ∀ id x, byId id = some x → x.name = m → id = key) ∧
        ∀ o, byId key = some o → o.name ≠ m → o.name ≠ n → byName o.name ≠ some o := by
  rw [indexed_iff] at *
  have hcleared : v = none ∨ m ≠ n →
      Function.update (Function.update byName m none) n v m = none := by
    rintro (hvnone | hmn)
    · rw [hnone hvnone, Function.update_self, hvnone]
    · rw [Function.update_of_ne hmn, Function.update_self]
  have hkept : ∀ {name}, name ≠ m → name ≠ n →
      (IndexedAt (Function.update byId key v)
        (Function.update (Function.update byName m none) n v) name ↔
          ∀ o, byId key = some o → o.name = name → byName name ≠ some o) := by
    intro name hnm hnn
    refine indexedAt_update_iff hid (fun r hr hname => hnn ?_) (hindexed name) ?_
    · exact hname.symm.trans (hv r hr)
    · rw [Function.update_of_ne hnn, Function.update_of_ne hnm]
  constructor
  · intro hall
    refine ⟨fun hclear id x hx hxm => ?_, fun o ho hom hon => ?_⟩
    · by_contra hne
      refine (indexedAt_of_none (hcleared hclear)).mp (hall m) id x ?_ hxm
      rwa [Function.update_of_ne hne]
    · exact (hkept hom hon).mp (hall o.name) o ho rfl
  · rintro ⟨honly, howns⟩ name
    -- a cleared name: no system that is left has it
    have hclear : v = none ∨ m ≠ n → IndexedAt (Function.update byId key v)
        (Function.update (Function.update byName m none) n v) m := by
      intro hclear
      refine (indexedAt_of_none (hcleared hclear)).mpr fun id x hx hxm => ?_
      by_cases hik : id = key
      · rw [hik, Function.update_self] at hx
        rcases hclear with hvnone | hmn
        · rw [hvnone] at hx
          cases hx
        · exact hmn (hxm.symm.trans (hv x hx))
      · rw [Function.update_of_ne hik] at hx
        exact hik (honly hclear id x hx hxm)
    by_cases hnn : name = n
    · subst hnn
      cases v with
      | none => exact hnone rfl ▸ hclear (.inl rfl)
      | some r =>
        exact indexedAt_of_some (Function.update_self ..) (hv r rfl) (Function.update_self ..)
    · by_cases hnm : name = m
      · subst hnm
        exact hclear (.inr hnn)
      · exact (hkept hnm hnn).mpr fun o ho hname =>
          hname ▸ howns o ho (hname ▸ hnm) (hname ▸ hnn)

/-! ## The events that keep it -/

/-- Another system than the one with the id has the name. -/
def HasNamesake (s : Stores) (id name : String) : Prop :=
  ∃ id' r, s.allSystemsById id' = some r ∧ r.name = name ∧ id' ≠ id

/-- The system with the id has another name, whose entry leads to it. -/
def OwnsOther (s : Stores) (id name : String) : Prop :=
  ∃ r, s.allSystemsById id = some r ∧ r.name ≠ name ∧ s.allSystemsByName r.name = some r

/-- The listener would take the record for a deletion. -/
def Deletes (s : Stores) (r : SystemRecord) : Prop :=
  r.id = "" ∧ (s.allSystemsById r.id).isSome

/-- **The events that leave an index behind**.

* A record that is created has the name its id had, or another system has taken that name over.
* A system that is renamed was the only one with its old name; where the page does not know the
  system, no other one is called `undefined`.
* A system that is deleted is the only one with its name, and the page knows it by this name or has
  lost its entry.
* A refresh brings valid records, again all the systems that the page knows, and all their names.
-/
def KeepsIndex (s : Stores) : Event → Prop
  | .create r => validateSystemInfo r → ¬ Deletes s r ∧ ¬ OwnsOther s r.id r.name
  | .update r =>
    let oldName := (s.allSystemsById r.id).map (·.name)
    validateSystemInfo r →
      ¬ Deletes s r ∧
        (oldName.getD "undefined" ≠ r.name → ¬ HasNamesake s r.id (oldName.getD "undefined"))
  | .delete r => ¬ HasNamesake s r.id r.name ∧ ¬ OwnsOther s r.id r.name
  | .refresh none => True
  | .refresh (some l) =>
    (∀ r ∈ l.records, validateSystemInfo r ∧ ¬ Deletes s r) ∧
      ∀ id r, s.allSystemsById id = some r →
        (∃ r' ∈ l.records, r'.id = id) ∧ ∃ r' ∈ l.records, r'.name = r.name

theorem setRecord_of_not_deletes {s : Stores} {r : SystemRecord} (h : ¬ Deletes s r) :
    setRecord s.allSystemsById r = Function.update s.allSystemsById r.id (some r) := if_neg h

/-- A record that is taken for a deletion leaves its name behind. -/
theorem not_indexed_of_deletes {s : Stores} (hs : Synced s) {r : SystemRecord} (h : Deletes s r)
    (hname : byName r.name = some r) : ¬ Indexed (setRecord s.allSystemsById r) byName := by
  intro hindexed
  obtain ⟨-, id, hstored⟩ := hindexed.maps hname
  obtain rfl : r.id = id := id_of_setRecord hs.id_of_byId hstored
  unfold Deletes at h
  rw [setRecord, if_pos h, Function.update_self] at hstored
  cases hstored

/-- **A name is cleared and a record put**: the index survives exactly where no other system had the
cleared name, and the record does not take an entry away. -/
theorem indexed_put_iff {s : Stores} (hs : Synced s)
    (hindexed : Indexed s.allSystemsById s.allSystemsByName) (m : String) (r : SystemRecord) :
    Indexed (setRecord s.allSystemsById r)
        (Function.update (Function.update s.allSystemsByName m none) r.name (some r)) ↔
      ¬ Deletes s r ∧ (m ≠ r.name → ¬ HasNamesake s r.id m) ∧
        ∀ o, s.allSystemsById r.id = some o → o.name ≠ m → o.name ≠ r.name →
          s.allSystemsByName o.name ≠ some o := by
  by_cases hdeletes : Deletes s r
  · refine iff_of_false (not_indexed_of_deletes hs hdeletes (Function.update_self ..)) ?_
    exact fun h => h.1 hdeletes
  · rw [setRecord_of_not_deletes hdeletes,
      indexed_write_iff hs.id_of_byId hindexed (by simp) (by simp)]
    simp only [reduceCtorEq, false_or, hdeletes, not_false_eq_true, true_and, HasNamesake,
      not_exists, not_and, not_not]

theorem indexed_create_iff {s : Stores} (hs : Synced s)
    (hindexed : Indexed s.allSystemsById s.allSystemsByName) (r : SystemRecord) :
    Indexed (s.after (.create r)).allSystemsById (s.after (.create r)).allSystemsByName ↔
      KeepsIndex s (.create r) := by
  simp only [Stores.after, KeepsIndex, Stores.putValid]
  by_cases hvalid : validateSystemInfo r
  · have hput := indexed_put_iff hs hindexed r.name r
    rw [Function.update_idem] at hput
    rw [if_pos hvalid, forall_prop_of_true hvalid]
    refine hput.trans (and_congr_right fun _ => ?_)
    unfold OwnsOther
    simp
  · rw [if_neg hvalid]
    exact iff_of_true hindexed fun h => absurd h hvalid

/-- The store by name after an update, whether or not the name has changed. -/
theorem byName_rename_put (s : Stores) (r : SystemRecord) :
    ((s.rename r).put r).allSystemsByName
      = Function.update
          (Function.update s.allSystemsByName
            (((s.allSystemsById r.id).map (·.name)).getD "undefined") none)
          r.name (some r) := by
  change Function.update (s.rename r).allSystemsByName r.name (some r) = _
  unfold Stores.rename
  by_cases hsame : (s.allSystemsById r.id).map (·.name) = some r.name
  · simp only [hsame, ne_eq, not_true_eq_false, if_false, Option.getD_some, Function.update_idem]
  · simp only [hsame, ne_eq, not_false_eq_true, if_true, Stores.clearName]

theorem byId_rename_put (s : Stores) (r : SystemRecord) :
    ((s.rename r).put r).allSystemsById = setRecord s.allSystemsById r := by
  change setRecord (s.rename r).allSystemsById r = _
  unfold Stores.rename
  dsimp only
  split_ifs <;> rfl

theorem indexed_update_iff {s : Stores} (hs : Synced s)
    (hindexed : Indexed s.allSystemsById s.allSystemsByName) (r : SystemRecord) :
    Indexed (s.after (.update r)).allSystemsById (s.after (.update r)).allSystemsByName ↔
      KeepsIndex s (.update r) := by
  simp only [KeepsIndex]
  by_cases hvalid : validateSystemInfo r
  · have hput : s.after (.update r) = (s.rename r).put r := if_pos hvalid
    rw [hput, byId_rename_put, byName_rename_put, indexed_put_iff hs hindexed,
      forall_prop_of_true hvalid]
    refine and_congr_right fun _ => and_iff_left fun o ho hold => ?_
    rw [ho] at hold
    exact absurd rfl hold
  · have hsame : s.after (.update r) = s := if_neg hvalid
    rw [hsame]
    exact iff_of_true hindexed fun h => absurd h hvalid

theorem indexed_delete_iff {s : Stores} (hs : Synced s)
    (hindexed : Indexed s.allSystemsById s.allSystemsByName) (r : SystemRecord) :
    Indexed (s.after (.delete r)).allSystemsById (s.after (.delete r)).allSystemsByName ↔
      KeepsIndex s (.delete r) := by
  have hwrite : Indexed (Function.update s.allSystemsById r.id none)
      (Function.update (Function.update s.allSystemsByName r.name none) r.name none) ↔ _ :=
    indexed_write_iff hs.id_of_byId hindexed (by simp) (by simp)
  rw [Function.update_idem] at hwrite
  refine hwrite.trans (and_congr ?_ ?_)
  · unfold HasNamesake
    simp
  · unfold OwnsOther
    simp

/-! ## Refreshes -/

theorem byId_putValid_of_ne {s : Stores} {r : SystemRecord} {id : String} (h : id ≠ r.id) :
    (s.putValid r).allSystemsById id = s.allSystemsById id := by
  unfold Stores.putValid
  split_ifs
  · change setRecord s.allSystemsById r id = _
    unfold setRecord
    split_ifs <;> exact Function.update_of_ne h ..
  · rfl

theorem byId_putValid_self {s : Stores} {r : SystemRecord} (hvalid : validateSystemInfo r) :
    (s.putValid r).allSystemsById r.id
      = if r.id = "" ∧ (s.allSystemsById r.id).isSome then none else some r := by
  unfold Stores.putValid
  rw [if_pos hvalid]
  change setRecord s.allSystemsById r r.id = _
  unfold setRecord
  split_ifs <;> exact Function.update_self ..

/-- A record's place depends on what was there. -/
theorem byId_putValid_congr {s t : Stores} {r : SystemRecord}
    (h : s.allSystemsById r.id = t.allSystemsById r.id) :
    (s.putValid r).allSystemsById r.id = (t.putValid r).allSystemsById r.id := by
  by_cases hvalid : validateSystemInfo r
  · rw [byId_putValid_self hvalid, byId_putValid_self hvalid, h]
  · unfold Stores.putValid
    rw [if_neg hvalid, if_neg hvalid, h]

/-- **The store by id after a refresh**: each record of the listing is put over what was under its
id before, the other records stay. -/
theorem byId_foldl_putValid {s : Stores} {records : List SystemRecord}
    (hnodup : (records.map (·.id)).Nodup) (id : String) :
    (records.foldl Stores.putValid s).allSystemsById id =
      (Table.lookup (·.id) records id).elim (s.allSystemsById id)
        fun r => (s.putValid r).allSystemsById id := by
  induction records generalizing s with
  | nil => rfl
  | cons r records ih =>
    rw [List.map_cons, List.nodup_cons] at hnodup
    rw [List.foldl_cons, ih hnodup.2]
    by_cases hid : r.id = id
    · have hfirst : Table.lookup (·.id) (r :: records) id = some r :=
        List.find?_cons_of_pos (by simpa using hid)
      have hrest : Table.lookup (·.id) records id = none := by
        rw [Table.lookup, List.find?_eq_none]
        intro r' hr' hid'
        refine hnodup.1 (List.mem_map.mpr ⟨r', hr', ?_⟩)
        exact (of_decide_eq_true hid').trans hid.symm
      rw [hfirst, hrest]
      rfl
    · have hskip : Table.lookup (·.id) (r :: records) id = Table.lookup (·.id) records id :=
        List.find?_cons_of_neg (by simpa using hid)
      rw [hskip]
      cases hlookup : Table.lookup (·.id) records id with
      | none => exact byId_putValid_of_ne (Ne.symm hid)
      | some r' =>
        obtain rfl := Table.key_of_lookup hlookup
        exact byId_putValid_congr (byId_putValid_of_ne (Ne.symm hid))

/-- The store by name after a refresh with valid records. -/
theorem byName_foldl_putValid {s : Stores} {records : List SystemRecord}
    (hvalid : ∀ r ∈ records, validateSystemInfo r) :
    (records.foldl Stores.putValid s).allSystemsByName
      = Writes.writes (·.name) some s.allSystemsByName records := by
  induction records generalizing s with
  | nil => rfl
  | cons r records ih =>
    obtain ⟨hr, hrecords⟩ := List.forall_mem_cons.mp hvalid
    rw [List.foldl_cons, ih hrecords, Stores.putValid, if_pos hr]
    rfl

/-- What a refresh leaves under an id that the listing has, or does not have. -/
theorem byId_refresh_of_mem {s : Stores} {l : Listing} {r : SystemRecord} (hr : r ∈ l.records) :
    (l.records.foldl Stores.putValid s).allSystemsById r.id
      = (s.putValid r).allSystemsById r.id := by
  rw [byId_foldl_putValid l.nodup, Table.lookup_of_mem l.nodup hr]
  rfl

theorem byId_refresh_of_not_mem {s : Stores} {l : Listing} {id : String}
    (h : ∀ r ∈ l.records, r.id ≠ id) :
    (l.records.foldl Stores.putValid s).allSystemsById id = s.allSystemsById id := by
  have hnone : Table.lookup (·.id) l.records id = none := by simpa [Table.lookup] using h
  rw [byId_foldl_putValid l.nodup, hnone]
  rfl

/-- Exactly the valid records of a listing that do not pass for deletions are found after it. -/
theorem byId_refresh_self_iff {s : Stores} (hs : Sound s) {l : Listing} {r : SystemRecord}
    (hr : r ∈ l.records) :
    (l.records.foldl Stores.putValid s).allSystemsById r.id = some r ↔
      validateSystemInfo r ∧ ¬ Deletes s r := by
  rw [byId_refresh_of_mem hr]
  by_cases hvalid : validateSystemInfo r
  · rw [byId_putValid_self hvalid]
    unfold Deletes
    simp [hvalid]
  · refine iff_of_false (fun hstored => hvalid ?_) fun h => hvalid h.1
    rw [Stores.putValid, if_neg hvalid] at hstored
    exact hs.valid_of_byId hstored

/-- The store by id after a refresh that covers the systems of the page is the listing. -/
theorem byId_refresh_iff {s : Stores} (hs : Sound s) {l : Listing}
    (hvalid : ∀ r ∈ l.records, validateSystemInfo r ∧ ¬ Deletes s r)
    (hknown : ∀ id r, s.allSystemsById id = some r → ∃ r' ∈ l.records, r'.id = id)
    (id : String) (r : SystemRecord) :
    (l.records.foldl Stores.putValid s).allSystemsById id = some r ↔
      r ∈ l.records ∧ r.id = id := by
  constructor
  · intro hr
    by_cases hmissing : ∀ r' ∈ l.records, r'.id ≠ id
    · rw [byId_refresh_of_not_mem hmissing] at hr
      obtain ⟨r', hr', hid⟩ := hknown id r hr
      exact absurd hid (hmissing r' hr')
    · simp only [not_forall, not_not] at hmissing
      obtain ⟨r', hr', rfl⟩ := hmissing
      have hfound := (byId_refresh_self_iff hs hr').mpr (hvalid r' hr')
      obtain rfl : r' = r := Option.some.inj (hfound.symm.trans hr)
      exact ⟨hr', rfl⟩
  · rintro ⟨hr, rfl⟩
    exact (byId_refresh_self_iff hs hr).mpr (hvalid r hr)

/-- The names after a refresh lead to the systems of the listing, if each name in use is one of
theirs. -/
theorem indexed_refresh {s : Stores} (hindexed : Indexed s.allSystemsById s.allSystemsByName)
    {l : Listing} (hvalid : ∀ r ∈ l.records, validateSystemInfo r)
    (hnames : ∀ id r, s.allSystemsById id = some r → ∃ r' ∈ l.records, r'.name = r.name)
    (hstored : ∀ id r, byId id = some r ↔ r ∈ l.records ∧ r.id = id) :
    Indexed byId (l.records.foldl Stores.putValid s).allSystemsByName := by
  refine indexed_iff.mpr fun name => ?_
  have hbyName := congrFun (byName_foldl_putValid (s := s) hvalid) name
  rw [Writes.writes_apply] at hbyName
  cases hlast : Table.lookup (·.name) l.records.reverse name with
  | some r =>
    rw [hlast] at hbyName
    have hr : r ∈ l.records := List.mem_reverse.mp (Table.mem_of_lookup hlast)
    exact indexedAt_of_some hbyName (Table.key_of_lookup hlast) ((hstored r.id r).mpr ⟨hr, rfl⟩)
  | none =>
    rw [hlast] at hbyName
    have hmissing : ∀ r ∈ l.records, r.name ≠ name := fun r hr =>
      Table.key_ne_of_lookup_eq_none hlast r (List.mem_reverse.mpr hr)
    have hempty : s.allSystemsByName name = none := by
      rw [← Option.not_isSome_iff_eq_none]
      intro hsome
      obtain ⟨id, r, hr, hname⟩ := (hindexed.isSome_iff name).mp hsome
      obtain ⟨r', hr', hname'⟩ := hnames id r hr
      exact hmissing r' hr' (hname'.trans hname)
    refine (indexedAt_of_none (hbyName.trans hempty)).mpr fun id r hr => ?_
    exact hmissing r ((hstored id r).mp hr).1

/-- A name that a refresh does not bring again keeps its entry, which leads nowhere where the
listing is stored. -/
theorem exists_name_of_refresh {s : Stores}
    (hindexed : Indexed s.allSystemsById s.allSystemsByName) {l : Listing}
    (hvalid : ∀ r ∈ l.records, validateSystemInfo r)
    (hafter : Indexed byId (l.records.foldl Stores.putValid s).allSystemsByName)
    (hstored : ∀ id r, byId id = some r → r ∈ l.records) {id : String} {r : SystemRecord}
    (hr : s.allSystemsById id = some r) : ∃ r' ∈ l.records, r'.name = r.name := by
  by_contra hmissing
  simp only [not_exists, not_and] at hmissing
  have hstays : (l.records.foldl Stores.putValid s).allSystemsByName r.name
      = s.allSystemsByName r.name := by
    rw [byName_foldl_putValid hvalid, Writes.writes_of_forall_ne hmissing]
  have hsome : ((l.records.foldl Stores.putValid s).allSystemsByName r.name).isSome := by
    rw [hstays]
    exact (hindexed.isSome_iff r.name).mpr ⟨id, r, hr, rfl⟩
  obtain ⟨id', r', hr', hname⟩ := (hafter.isSome_iff r.name).mp hsome
  exact hmissing r' (hstored id' r' hr') hname

theorem nameIndex_refresh_iff {s : Stores} (hs : Sound s)
    (hindexed : Indexed s.allSystemsById s.allSystemsByName) (l : Listing) :
    NameIndex ⟨s.after (.refresh (some l)), some l⟩ ↔ KeepsIndex s (.refresh (some l)) := by
  change NameIndex ⟨l.records.foldl Stores.putValid s, some l⟩ ↔ _
  constructor
  · intro h
    have hanswered := h.answered l rfl
    have hvalid : ∀ r ∈ l.records, validateSystemInfo r ∧ ¬ Deletes s r := fun r hr =>
      (byId_refresh_self_iff hs hr).mp ((hanswered r.id r).mpr ⟨hr, rfl⟩)
    refine ⟨hvalid, fun id r hr => ⟨?_, ?_⟩⟩
    · by_contra hmissing
      simp only [not_exists, not_and] at hmissing
      have hstays := (byId_refresh_of_not_mem hmissing).trans hr
      obtain ⟨hmem, hid⟩ := (hanswered id r).mp hstays
      exact hmissing r hmem hid
    · exact exists_name_of_refresh hindexed (fun r hr => (hvalid r hr).1) h.indexed
        (fun id r hr => ((hanswered id r).mp hr).1) hr
  · rintro ⟨hvalid, hcovers⟩
    have hanswered := byId_refresh_iff hs hvalid fun id r hr => (hcovers id r hr).1
    refine ⟨?_, fun l' hl' => ?_⟩
    · exact indexed_refresh hindexed (fun r hr => (hvalid r hr).1)
        (fun id r hr => (hcovers id r hr).2) hanswered
    · obtain rfl : l = l' := Option.some.inj hl'
      exact hanswered

/-- **Exactly these events keep the index.** -/
theorem nameIndex_after_iff {s : Stores} (hs : Sound s)
    (hindexed : Indexed s.allSystemsById s.allSystemsByName) (e : Event) :
    NameIndex ⟨s.after e, e.answer⟩ ↔ KeepsIndex s e := by
  have hunanswered : ∀ t : Stores,
      NameIndex ⟨t, none⟩ ↔ Indexed t.allSystemsById t.allSystemsByName := by
    intro t
    exact ⟨NameIndex.indexed, fun h => ⟨h, fun l hl => by cases hl⟩⟩
  cases e with
  | create r => exact (hunanswered _).trans (indexed_create_iff hs.toSynced hindexed r)
  | update r => exact (hunanswered _).trans (indexed_update_iff hs.toSynced hindexed r)
  | delete r => exact (hunanswered _).trans (indexed_delete_iff hs.toSynced hindexed r)
  | refresh answer =>
    cases answer with
    | none => exact (hunanswered _).trans (iff_of_true hindexed trivial)
    | some l => exact nameIndex_refresh_iff hs hindexed l

/-! ## Runs -/

theorem valid_of_setRecord {s : Stores} (hs : Sound s) {system r : SystemRecord} {id : String}
    (hvalid : validateSystemInfo system) (h : setRecord s.allSystemsById system id = some r) :
    validateSystemInfo r := by
  rcases setRecord_eq_some h with ⟨-, rfl⟩ | h
  · exact hvalid
  · exact hs.valid_of_byId h

theorem Sound.putValid {s : Stores} (hs : Sound s) (system : SystemRecord) :
    Sound (s.putValid system) where
  toSynced := hs.toSynced.putValid system
  valid_of_byId {id r} h := by
    unfold Stores.putValid at h
    split_ifs at h with hvalid
    · exact valid_of_setRecord hs hvalid h
    · exact hs.valid_of_byId h

theorem Sound.foldl_putValid {s : Stores} (hs : Sound s) (records : List SystemRecord) :
    Sound (records.foldl Stores.putValid s) := by
  induction records generalizing s with
  | nil => exact hs
  | cons system records ih => exact ih (hs.putValid system)

theorem Sound.after {s : Stores} (hs : Sound s) (e : Event) : Sound (s.after e) where
  toSynced := hs.toSynced.after e
  valid_of_byId {id r} h := by
    cases e with
    | create system => exact (hs.putValid system).valid_of_byId h
    | update system =>
      simp only [Stores.after] at h
      split_ifs at h with hvalid
      · rw [byId_rename_put] at h
        exact valid_of_setRecord hs hvalid h
      · exact hs.valid_of_byId h
    | delete system =>
      by_cases hkey : id = system.id
      · rw [hkey] at h
        exact absurd ((Function.update_self ..).symm.trans h) (by simp)
      · exact hs.valid_of_byId ((Function.update_of_ne hkey ..).symm.trans h)
    | refresh answer => exact (hs.foldl_putValid _).valid_of_byId h

theorem sound_init : Sound Stores.init where
  toSynced := synced_init
  valid_of_byId h := by cases h

/-- **When the name index is right**: in every state that a run of events passes through, names lead
to systems that have them, and a refresh leaves the systems of the server's answer, if and only if
each event of the run keeps the index in the state it comes in. -/
theorem nameIndex_iff_along (es : List Event) :
    (∀ earlier, earlier <+: es → ∀ p ∈ run step Page.init earlier, NameIndex p) ↔
      Along step (fun p e => KeepsIndex p.stores e) Page.init es := by
  refine forall_prefix_iff_along (I := fun p => Sound p.stores ∧ NameIndex p) And.right ?_ ?_ ?_
  · intro p e p' hp hok hstep
    rw [step_eq hp.1.toSynced] at hstep
    cases hstep
    exact ⟨hp.1.after e, (nameIndex_after_iff hp.1 hp.2.indexed e).mpr hok⟩
  · intro p e hp hbad
    refine ⟨_, step_eq hp.1.toSynced e, fun h => hbad ?_⟩
    exact (nameIndex_after_iff hp.1 hp.2.indexed e).mp h
  · refine ⟨sound_init, ⟨?_, fun l hl => by cases hl⟩⟩
    exact indexed_iff.mpr fun name => (indexedAt_of_none rfl).mpr fun id r hr => by cases hr

/-- Two systems with one name, the second of which is deleted: the first one is still there, and its
name leads nowhere. -/
theorem nameIndex_fails : ¬ ∀ es, ∀ p ∈ run step Page.init es, NameIndex p := by
  intro hall
  have h := hall
    [.create ⟨"a", "web", "10.0.0.1", "45876", [("cpu", "1.5")], .up⟩,
      .create ⟨"b", "web", "10.0.0.2", "45876", [("cpu", "2")], .up⟩,
      .delete ⟨"b", "web", "10.0.0.2", "45876", [("cpu", "2")], .up⟩] _ rfl
  have hdefined := (h.indexed.isSome_iff "web").mpr ⟨"a", _, rfl, rfl⟩
  cases hdefined

end SystemStores

end Beszel
