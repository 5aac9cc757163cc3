import Beszel.Common.Rounding
import Beszel.Common.Stats
import Beszel.Machinery.Columns
import Beszel.Machinery.Float64

/-!
# Hub/ContainerAverages — the average of a list of `container_stats` records

    record ──decode──▸ containers ──add, by name──▸ sums ──÷ records──▸ one entry for each name

`AverageContainerStats` of `internal/records/records.go` keeps its sums, the record it has read and
the containers it has decoded in package-level variables, which every call finds as the last one
left them.  They are `Buffers` here; what is stale in them does not reach the result, and neither
does the order of the records or of their containers.  The bytes are summed in a `uint64`, and the
sum is divided as a `float64`.
-/

namespace Beszel

open Machinery

namespace ContainerAverages

/-! ## Records -/

/-- `container.Stats`, of the fields that are stored. -/
structure Stats where
  name : String
  cpu : ℚ
  mem : ℚ
  networkSent : ℚ
  networkRecv : ℚ
  bandwidth : UInt64 × UInt64
  deriving DecidableEq

/-- `&container.Stats{Name: stat.Name}`. -/
def Stats.named (name : String) : Stats := ⟨name, 0, 0, 0, 0, (0, 0)⟩

/-- `container.Stats{}`. -/
def Stats.zero : Stats := .named ""

/-- A container in the JSON of a record: a field is there or it is not. -/
structure StatsJson where
  n : Option String
  c : Option ℚ
  m : Option ℚ
  ns : Option ℚ
  nr : Option ℚ
  b : Option (UInt64 × UInt64)
  deriving DecidableEq

/-- Decoding into a variable: a field that is not there keeps its value. -/
def StatsJson.decode (json : StatsJson) (stat : Stats) : Stats where
  name := json.n.getD stat.name
  cpu := json.c.getD stat.cpu
  mem := json.m.getD stat.mem
  networkSent := json.ns.getD stat.networkSent
  networkRecv := json.nr.getD stat.networkRecv
  bandwidth := json.b.getD stat.bandwidth

/-- The JSON of a record, `none` where it does not decode. -/
abbrev Record := Option (List StatsJson)

/-- The variables that are used again; `containerStats` is the backing array of the slice. -/
structure Buffers where
  statsRecord : Record
  containerStats : List Stats
  containerSums : GoMap Stats

/-- `json.Unmarshal` into a slice: its elements are decoded into those of the backing array. -/
def unmarshal (backing : List Stats) : List StatsJson → List Stats
  | [] => []
  | json :: jsons => json.decode (backing.headD .zero) :: unmarshal backing.tail jsons

/-! ## The function -/

section Function

/-! What the conversion of a float gives that does not fit is left to the implementation, and so is
the order in which a map is ranged over. -/

variable (outOfRange : ℚ → UInt64) (order : GoMap Stats → List Stats)

/-- `uint64` of a float: the fraction is dropped. -/
def toUint64 (x : ℚ) : UInt64 :=
  if -1 < x ∧ x < 2 ^ 64 then .ofNat ⌊x⌋.toNat else outOfRange x

/-- The bytes sent and received: those of an old record are converted from megabytes. -/
def bytes (stat : Stats) : UInt64 × UInt64 :=
  if stat.bandwidth.1 = 0 ∧ stat.bandwidth.2 = 0 ∧
      (stat.networkSent ≠ 0 ∨ stat.networkRecv ≠ 0) then
    (toUint64 outOfRange (stat.networkSent * 1024 * 1024),
      toUint64 outOfRange (stat.networkRecv * 1024 * 1024))
  else stat.bandwidth

/-- The sums of a name, with a container added. -/
def Stats.add (sum stat : Stats) : Stats :=
  { sum with
    cpu := sum.cpu + stat.cpu
    mem := sum.mem + stat.mem
    bandwidth := (sum.bandwidth.1 + (bytes outOfRange stat).1,
      sum.bandwidth.2 + (bytes outOfRange stat).2) }

/-- A container is added to the sums of its name. -/
def addStat (sums : GoMap Stats) (stat : Stats) : GoMap Stats :=
  sums.insert stat.name
    (((sums.lookup stat.name).getD (.named stat.name)).add outOfRange stat)

/-- The loop over the records; a record that does not decode ends it. -/
def accumulateRecords : Buffers → List Record → Except Buffers Buffers
  | g, [] => .ok g
  | g, record :: records =>
    match record with
    | none => .error { g with statsRecord := record, containerStats := [] }
    | some jsons =>
      let containerStats := unmarshal [] jsons
      accumulateRecords
        { statsRecord := record
          containerStats
          containerSums := containerStats.foldl (addStat outOfRange) g.containerSums }
        records

/-- The loop that deletes every key of the sums. -/
def clearSums (sums : GoMap Stats) : GoMap Stats :=
  sums.keys.foldl (fun sums key => sums.erase key) sums

/-- The entry of a name, averaged. -/
def Stats.average (count : ℕ) (sum : Stats) : Stats :=
  { Stats.named sum.name with
    cpu := twoDecimals (sum.cpu / count)
    mem := twoDecimals (sum.mem / count)
    bandwidth := (toUint64 outOfRange (floatDiv sum.bandwidth.1.toNat count),
      toUint64 outOfRange (floatDiv sum.bandwidth.2.toNat count)) }

/-- **`AverageContainerStats`**, and what it leaves in the variables. -/
def averageContainerStats (g : Buffers) (records : List Record) : List Stats × Buffers :=
  match accumulateRecords outOfRange { g with containerSums := clearSums g.containerSums }
      records with
  | .error g' => ([], g')
  | .ok g' => ((order g'.containerSums).map (Stats.average outOfRange records.length), g')

end Function

/-! ## What is averaged -/

/-- The containers of records that decode. -/
def containers (records : List (List StatsJson)) : List Stats :=
  records.flatten.map (·.decode .zero)

/-- The occurrences of a name. -/
def occurrences (records : List (List StatsJson)) (name : String) : List Stats :=
  (containers records).filter fun stat => stat.name = name

section Spec

variable (outOfRange : ℚ → UInt64)

/-- The sum of the bytes of a name, on one side. -/
def byteSum (side : UInt64 × UInt64 → UInt64) (records : List (List StatsJson)) (name : String) :
    ℕ :=
  ((occurrences records name).map fun stat => (side (bytes outOfRange stat)).toNat).sum

/-- **The quotient of a byte sum**: the integer quotient where the sum is exact in a `float64`, and
else up to the precision of one. -/
structure Quotient (sum count v : ℕ) : Prop where
  exact : sum < 2 ^ 53 → v = sum / count
  near : |(v : ℚ) - sum / count| ≤ (sum : ℚ) / count / 2 ^ 51 + 1

/-- An entry has the sums of its name, divided by the number of records. -/
structure IsAverage (records : List (List StatsJson)) (e : Stats) : Prop where
  cpu : e.cpu =
    twoDecimals (((occurrences records e.name).map (·.cpu)).sum / records.length)
  mem : e.mem =
    twoDecimals (((occurrences records e.name).map (·.mem)).sum / records.length)
  sent : Quotient (byteSum outOfRange Prod.fst records e.name) records.length
    e.bandwidth.1.toNat
  recv : Quotient (byteSum outOfRange Prod.snd records e.name) records.length
    e.bandwidth.2.toNat

/-- **One entry for each name**, with its averages. -/
structure Correct (records : List (List StatsJson)) (result : List Stats) : Prop where
  nodup : (result.map (·.name)).Nodup
  names : ∀ name, name ∈ result.map (·.name) ↔ ∃ stat ∈ containers records, stat.name = name
  average : ∀ e ∈ result, IsAverage outOfRange records e

/-- **A byte sum fits**: it is no more than a `uint64` holds; and the last 1024 of these, which a
`float64` rounds to 2⁶⁴, are near to what that is converted to if they stand in the only record. -/
def Fits (count sum : ℕ) : Prop :=
  sum < 2 ^ 64 ∧ (count = 1 → 2 ^ 64 - 1024 ≤ sum → Quotient sum 1 (outOfRange (2 ^ 64)).toNat)

/-- The records in another order, and the containers of each record in another order. -/
def Reordered : List (List StatsJson) → List (List StatsJson) → Prop :=
  Relation.Comp (List.Forall₂ List.Perm) List.Perm

/-- A map is ranged over in some order. -/
def Ranges (order : GoMap Stats → List Stats) : Prop :=
  ∀ m : GoMap Stats, (order m).Perm (m.entries.map fun e => e.2)

end Spec

/-! ## Stale variables -/

theorem unmarshal_nil (jsons : List StatsJson) :
    unmarshal [] jsons = jsons.map (·.decode .zero) := by
  induction jsons with
  | nil => rfl
  | cons json jsons ih => exact congrArg (json.decode .zero :: ·) ih

/-- The sums are empty when the loop starts. -/
theorem clearSums_eq (sums : GoMap Stats) : clearSums sums = ∅ := by
  have hkeys : ∀ (keys : List String) (sums : GoMap Stats),
      (keys.foldl (fun sums key => sums.erase key) sums).keys = sums.keys.diff keys := by
    intro keys
    induction keys with
    | nil => exact fun sums => rfl
    | cons key keys ih =>
      intro sums
      rw [List.foldl_cons, ih, AList.keys_erase, List.diff_cons]
  have hnil : (clearSums sums).keys = [] := by
    rw [clearSums, hkeys, List.eq_nil_iff_forall_not_mem]
    intro key hkey
    have hmem := (List.Nodup.mem_sdiff_iff sums.keys_nodup).mp hkey
    exact hmem.2 hmem.1
  exact AList.ext (List.map_eq_nil_iff.mp hnil)

section Sums

variable (outOfRange : ℚ → UInt64)

theorem accumulateRecords_some (records : List (List StatsJson)) (g : Buffers) :
    ∃ g', accumulateRecords outOfRange g (records.map some) = .ok g' ∧
      g'.containerSums = (containers records).foldl (addStat outOfRange) g.containerSums := by
  induction records generalizing g with
  | nil => exact ⟨g, rfl, rfl⟩
  | cons jsons records ih =>
    obtain ⟨g', hg', hsums⟩ := ih
      { statsRecord := some jsons
        containerStats := unmarshal [] jsons
        containerSums := (unmarshal [] jsons).foldl (addStat outOfRange) g.containerSums }
    refine ⟨g', hg', hsums.trans ?_⟩
    have hcons : containers (jsons :: records) =
        jsons.map (·.decode .zero) ++ containers records := by
      rw [containers, List.flatten_cons, List.map_append]
      rfl
    rw [unmarshal_nil, ← List.foldl_append, hcons]

/-- **The sums of a name** are the total of its occurrences. -/
theorem lookup_sums (records : List (List StatsJson)) (name : String) :
    ((containers records).foldl (addStat outOfRange) ∅).lookup name =
      total (fun _ => .named name) (Stats.add outOfRange) (occurrences records name) := by
  have hname : ∀ stat ∈ occurrences records name, stat.name = name := fun stat hstat =>
    of_decide_eq_true (List.mem_filter.mp hstat).2
  have hfold := lookup_foldl_insert (fun stat : Stats => Stats.named stat.name)
    (Stats.add outOfRange) (·.name) (containers records) ∅ name
  rw [AList.lookup_empty, foldl_addOne_none] at hfold
  rw [← occurrences] at hfold
  refine hfold.trans ?_
  cases hocc : occurrences records name with
  | nil => rfl
  | cons stat stats =>
    have hstat := hname stat (hocc ▸ List.mem_cons_self)
    simp only [total, List.head?_cons, Option.map_some, hstat]

end Sums

/-! ## The result -/

section Result

variable {outOfRange : ℚ → UInt64} {order : GoMap Stats → List Stats} (horder : Ranges order)
  (g : Buffers) (records : List (List StatsJson))

/-- The sums that a call ends with. -/
def sums (outOfRange : ℚ → UInt64) (records : List (List StatsJson)) : GoMap Stats :=
  (containers records).foldl (addStat outOfRange) ∅

/-- **What is stale does not reach the result.** -/
theorem averageContainerStats_eq :
    (averageContainerStats outOfRange order g (records.map some)).1 =
      (order (sums outOfRange records)).map (Stats.average outOfRange records.length) := by
  obtain ⟨g', hg', hsums⟩ := accumulateRecords_some outOfRange records
    { g with containerSums := clearSums g.containerSums }
  rw [clearSums_eq] at hsums
  rw [averageContainerStats, hg', List.length_map, sums, ← hsums]

/-- What the sums of a name are. -/
theorem sums_eq {name : String} {sum : Stats}
    (h : (sums outOfRange records).lookup name = some sum) :
    sum.name = name ∧ sum.cpu = ((occurrences records name).map (·.cpu)).sum ∧
      sum.mem = ((occurrences records name).map (·.mem)).sum ∧
      sum.bandwidth.1.toNat = byteSum outOfRange Prod.fst records name % 2 ^ 64 ∧
      sum.bandwidth.2.toNat = byteSum outOfRange Prod.snd records name % 2 ^ 64 := by
  rw [sums, lookup_sums, total, Option.map_eq_some_iff] at h
  obtain ⟨-, -, rfl⟩ := h
  have hbytes : ∀ side : UInt64 × UInt64 → UInt64,
      ((occurrences records name).map fun stat => side (bytes outOfRange stat)).sum.toNat =
        byteSum outOfRange side records name % 2 ^ 64 := by
    intro side
    rw [toNat_sum, List.map_map]
    rfl
  refine ⟨?_, ?_, ?_, ?_, ?_⟩
  · exact foldl_unchanged (Stats.add outOfRange) Stats.name (fun _ _ => rfl) _ _
  · rw [foldl_eq_add_sum (Stats.add outOfRange) Stats.cpu (·.cpu) fun _ _ => rfl]
    exact zero_add _
  · rw [foldl_eq_add_sum (Stats.add outOfRange) Stats.mem (·.mem) fun _ _ => rfl]
    exact zero_add _
  · rw [foldl_eq_add_sum (Stats.add outOfRange) (fun sum => sum.bandwidth.1)
      (fun stat => (bytes outOfRange stat).1) fun _ _ => rfl, ← hbytes Prod.fst]
    exact congrArg UInt64.toNat (zero_add _)
  · rw [foldl_eq_add_sum (Stats.add outOfRange) (fun sum => sum.bandwidth.2)
      (fun stat => (bytes outOfRange stat).2) fun _ _ => rfl, ← hbytes Prod.snd]
    exact congrArg UInt64.toNat (zero_add _)

/-- A mean of bytes that is less than 2⁶⁴ is converted back to its integer part. -/
theorem toNat_toUint64 {x : ℚ} (hx : 0 ≤ x) (hlt : x < 2 ^ 64) :
    (toUint64 outOfRange x).toNat = ⌊x⌋.toNat := by
  have hfloor : ⌊x⌋ < 2 ^ 64 := Int.floor_lt.mpr (by exact_mod_cast hlt)
  have htoNat : ⌊x⌋.toNat < 2 ^ 64 := by omega
  rw [toUint64, if_pos ⟨by linarith, hlt⟩]
  exact UInt64.toNat_ofNat_of_lt' htoNat

theorem floatDiv_nonneg (m n : ℕ) : 0 ≤ floatDiv m n := by
  have hm := float64_nonneg (Nat.cast_nonneg (α := ℚ) m)
  have hn := float64_nonneg (Nat.cast_nonneg (α := ℚ) n)
  exact float64_nonneg (div_nonneg hm hn)

/-- The division of a `uint64` gives the quotient. -/
theorem quotient_floatDiv {m n : ℕ} (hn : 0 < n) (hm : m < 2 ^ 64)
    (h : n = 1 → m < 2 ^ 64 - 1024) :
    Quotient m n (toUint64 outOfRange (floatDiv m n)).toNat := by
  have hnonneg := floatDiv_nonneg m n
  rw [toNat_toUint64 hnonneg (floatDiv_lt hn hm h)]
  constructor
  · intro hexact
    rw [floor_floatDiv hn hexact, Int.toNat_natCast]
  · have hcast : (⌊floatDiv m n⌋.toNat : ℚ) = ⌊floatDiv m n⌋ := by
      exact_mod_cast Int.toNat_of_nonneg (Int.floor_nonneg.mpr hnonneg)
    obtain ⟨hlow, hup⟩ := abs_le.mp (abs_floatDiv_sub_le (n := m) hn)
    have hfloor := Int.floor_le (floatDiv m n)
    have hlt := Int.lt_floor_add_one (floatDiv m n)
    rw [hcast, abs_le]
    constructor <;> linarith

/-- What is converted is little more than the quotient. -/
theorem toUint64_floatDiv_le {m n : ℕ} (hn : 0 < n) (hm : m < 2 ^ 64) :
    ((toUint64 outOfRange (floatDiv m n)).toNat : ℚ) ≤ (m + 2 ^ 13) / n := by
  have hn' : (0 : ℚ) < n := by exact_mod_cast hn
  have hm' : (m : ℚ) < 2 ^ 64 := by exact_mod_cast hm
  by_cases h : n = 1 → m < 2 ^ 64 - 1024
  · rw [toNat_toUint64 (floatDiv_nonneg m n) (floatDiv_lt hn hm h)]
    have hcast : (⌊floatDiv m n⌋.toNat : ℚ) = ⌊floatDiv m n⌋ := by
      exact_mod_cast Int.toNat_of_nonneg (Int.floor_nonneg.mpr (floatDiv_nonneg m n))
    have hup := (abs_le.mp (abs_floatDiv_sub_le (n := m) hn)).2
    have herror : (m : ℚ) / n / 2 ^ 51 ≤ 2 ^ 13 / n := by
      rw [div_right_comm]
      exact div_le_div_of_nonneg_right (by linarith) hn'.le
    rw [hcast, add_div]
    linarith [Int.floor_le (floatDiv m n)]
  · push Not at h
    obtain ⟨rfl, hlarge⟩ := h
    have hlt : ((toUint64 outOfRange (floatDiv m 1)).toNat : ℚ) < 2 ^ 64 := by
      exact_mod_cast UInt64.toNat_lt _
    have hlarge' : (2 : ℚ) ^ 64 ≤ m + 1024 := by exact_mod_cast Nat.sub_le_iff_le_add.mp hlarge
    rw [Nat.cast_one, div_one]
    linarith

/-- **A sum that wraps has no quotient left**, one that fits has. -/
theorem quotient_iff_fits {sum n : ℕ} (hn : 0 < n) (hlen : n < 2 ^ 63) :
    Quotient sum n (toUint64 outOfRange (floatDiv (sum % 2 ^ 64) n)).toNat ↔
      Fits outOfRange n sum := by
  by_cases hsum : sum < 2 ^ 64
  · rw [Nat.mod_eq_of_lt hsum]
    by_cases h : n = 1 → sum < 2 ^ 64 - 1024
    · exact iff_of_true (quotient_floatDiv hn hsum h)
        ⟨hsum, fun hone hlarge => absurd (h hone) (not_lt.mpr hlarge)⟩
    · push Not at h
      obtain ⟨rfl, hlarge⟩ := h
      have hconvert : toUint64 outOfRange (floatDiv sum 1) = outOfRange (2 ^ 64) := by
        rw [floatDiv_one hlarge hsum, toUint64, if_neg (by norm_num)]
      rw [hconvert]
      exact ⟨fun hq => ⟨hsum, fun _ _ => hq⟩, fun hfits => hfits.2 rfl hlarge⟩
  · refine iff_of_false (fun hq => ?_) fun hfits => hsum hfits.1
    have hn' : (0 : ℚ) < n := by exact_mod_cast hn
    have hlen' : (n : ℚ) < 2 ^ 63 := by exact_mod_cast hlen
    have hup := @toUint64_floatDiv_le outOfRange _ _ hn (Nat.mod_lt sum (by norm_num))
    have hnear := (abs_le.mp hq.near).1
    -- what is lost is a multiple of `2 ^ 64`
    have hsplit : (sum : ℚ) = 2 ^ 64 * (sum / 2 ^ 64 : ℕ) + (sum % 2 ^ 64 : ℕ) := by
      exact_mod_cast (Nat.div_add_mod sum (2 ^ 64)).symm
    have hk : (1 : ℚ) ≤ (sum / 2 ^ 64 : ℕ) := by
      exact_mod_cast Nat.div_pos (not_lt.mp hsum) (by norm_num)
    have hmod : ((sum % 2 ^ 64 : ℕ) : ℚ) < 2 ^ 64 := by
      exact_mod_cast Nat.mod_lt sum (by norm_num)
    have hall : (sum : ℚ) / n - sum / n / 2 ^ 51 - 1 ≤ ((sum % 2 ^ 64 : ℕ) + 2 ^ 13) / n := by
      linarith
    rw [div_right_comm, ← sub_div, sub_le_iff_le_add, div_le_iff₀ hn', add_mul,
      div_mul_cancel₀ _ hn'.ne', one_mul, hsplit] at hall
    generalize ((sum % 2 ^ 64 : ℕ) : ℚ) = m at hmod hall
    generalize ((sum / 2 ^ 64 : ℕ) : ℚ) = k at hk hall
    linarith

/-- The entries of the result are the averages of the sums. -/
theorem mem_result {m : GoMap Stats} {count : ℕ} {e : Stats} (horder : Ranges order) :
    e ∈ (order m).map (Stats.average outOfRange count) ↔
      ∃ name sum, m.lookup name = some sum ∧ e = sum.average outOfRange count := by
  rw [List.mem_map]
  constructor
  · rintro ⟨sum, hsum, rfl⟩
    obtain ⟨entry, hentry, rfl⟩ := List.mem_map.mp ((horder m).mem_iff.mp hsum)
    exact ⟨entry.1, entry.2, AList.mem_lookup_iff.mpr hentry, rfl⟩
  · rintro ⟨name, sum, hsum, rfl⟩
    exact ⟨sum, (horder m).mem_iff.mpr (List.mem_map.mpr
      ⟨⟨name, sum⟩, AList.mem_lookup_iff.mp hsum, rfl⟩), rfl⟩

/-- The names of the result are the keys of the sums. -/
theorem names_perm (count : ℕ) (horder : Ranges order) :
    (((order (sums outOfRange records)).map (Stats.average outOfRange count)).map (·.name)).Perm
      (sums outOfRange records).keys := by
  have hname : ((sums outOfRange records).entries.map fun e => e.2).map Stats.name =
      (sums outOfRange records).keys := by
    rw [List.map_map]
    refine List.map_congr_left fun e he => ?_
    exact (sums_eq records (AList.mem_lookup_iff.mpr he)).1
  rw [List.map_map, ← hname]
  exact (horder _).map Stats.name

/-- A name has sums if it occurs. -/
theorem mem_sums {name : String} :
    name ∈ (sums outOfRange records).keys ↔ ∃ stat ∈ containers records, stat.name = name := by
  have hmem : name ∈ (sums outOfRange records).keys ↔
      ((sums outOfRange records).lookup name).isSome := AList.lookup_isSome.symm
  have hocc : occurrences records name ≠ [] ↔ ∃ stat ∈ containers records, stat.name = name := by
    rw [occurrences, Ne, List.filter_eq_nil_iff]
    push Not
    simp
  rw [hmem, sums, lookup_sums, total, Option.isSome_map, List.isSome_head?, ← hocc]

end Result

/-! ## The order -/

section Order

variable {records records' : List (List StatsJson)}

theorem Reordered.length_eq (h : Reordered records records') :
    records.length = records'.length := by
  obtain ⟨mid, hmid, hperm⟩ := h
  exact hmid.length_eq.trans hperm.length_eq

theorem Reordered.containers (h : Reordered records records') :
    (containers records).Perm (containers records') := by
  obtain ⟨mid, hmid, hperm⟩ := h
  exact ((List.Perm.flatten_congr hmid).trans hperm.flatten).map _

/-- The sums do not depend on the order. -/
theorem sums_perm (outOfRange : ℚ → UInt64) (h : Reordered records records') :
    (sums outOfRange records).entries.Perm (sums outOfRange records').entries := by
  have hadd : ∀ sum stat stat' : Stats, (sum.add outOfRange stat).add outOfRange stat' =
      (sum.add outOfRange stat').add outOfRange stat := by
    intro sum stat stat'
    simp only [Stats.add, add_right_comm]
  have hlookup : ∀ name, (sums outOfRange records).lookup name =
      (sums outOfRange records').lookup name := by
    intro name
    rw [sums, sums, lookup_sums, lookup_sums]
    exact total_perm (fun _ _ => rfl) hadd (h.containers.filter _)
  refine List.lookup_ext (AList.nodupKeys _) (AList.nodupKeys _) fun name sum => ?_
  rw [show (sums outOfRange records).entries.dlookup name = _ from hlookup name]
  rfl

end Order

/-! ## Main results -/

section Main

variable {outOfRange : ℚ → UInt64} {order : GoMap Stats → List Stats}
  {records : List (List StatsJson)}

/-- The bytes of an entry are the averages of sums that are kept modulo `2 ^ 64`. -/
theorem average_bytes {name : String} {sum : Stats}
    (h : (sums outOfRange records).lookup name = some sum) :
    (sum.average outOfRange records.length).bandwidth =
      (toUint64 outOfRange
          (floatDiv (byteSum outOfRange Prod.fst records name % 2 ^ 64) records.length),
        toUint64 outOfRange
          (floatDiv (byteSum outOfRange Prod.snd records name % 2 ^ 64) records.length)) := by
  obtain ⟨-, -, -, hsent, hrecv⟩ := sums_eq records h
  rw [← hsent, ← hrecv]
  rfl

/-- There are no sums without a record. -/
theorem length_pos_of_sums {name : String} (h : name ∈ (sums outOfRange records).keys) :
    0 < records.length := by
  obtain ⟨stat, hstat, -⟩ := (mem_sums records).mp h
  refine List.length_pos_iff.mpr fun hnil => ?_
  subst hnil
  exact nomatch hstat

/-- **The averages are right** if and only if the bytes of every name fit. -/
theorem correct_result_iff (horder : Ranges order) (hlen : records.length < 2 ^ 63) (g : Buffers) :
    Correct outOfRange records (averageContainerStats outOfRange order g (records.map some)).1 ↔
      ∀ name, Fits outOfRange records.length (byteSum outOfRange Prod.fst records name) ∧
        Fits outOfRange records.length (byteSum outOfRange Prod.snd records name) := by
  rw [averageContainerStats_eq]
  constructor
  · intro hcorrect name
    by_cases hname : name ∈ (sums outOfRange records).keys
    · obtain ⟨sum, hsum⟩ := Option.isSome_iff_exists.mp (AList.lookup_isSome.mpr hname)
      have hpos := length_pos_of_sums hname
      have haverage := hcorrect.average _ ((mem_result horder).mpr ⟨name, sum, hsum, rfl⟩)
      have hen : (sum.average outOfRange records.length).name = name := (sums_eq records hsum).1
      have hsent := haverage.sent
      have hrecv := haverage.recv
      rw [hen, average_bytes hsum] at hsent hrecv
      exact ⟨(quotient_iff_fits hpos hlen).mp hsent, (quotient_iff_fits hpos hlen).mp hrecv⟩
    · -- a name that does not occur has no bytes
      have hnil : occurrences records name = [] := by
        rw [mem_sums] at hname
        rw [occurrences, List.filter_eq_nil_iff]
        exact fun stat hstat h => hname ⟨stat, hstat, of_decide_eq_true h⟩
      simp [byteSum, hnil, Fits]
  · intro hbound
    refine ⟨?_, ?_, ?_⟩
    · exact (names_perm records _ horder).nodup_iff.mpr (AList.keys_nodup _)
    · intro name
      rw [(names_perm records _ horder).mem_iff, mem_sums]
    · intro e he
      obtain ⟨name, sum, hsum, rfl⟩ := (mem_result horder).mp he
      obtain ⟨hname, hcpu, hmem, -, -⟩ := sums_eq records hsum
      have hpos := length_pos_of_sums (AList.lookup_isSome.mp
        (Option.isSome_iff_exists.mpr ⟨sum, hsum⟩))
      have hen : (sum.average outOfRange records.length).name = name := hname
      constructor
      · rw [hen, ← hcpu]
        rfl
      · rw [hen, ← hmem]
        rfl
      · rw [hen, average_bytes hsum]
        exact (quotient_iff_fits hpos hlen).mpr (hbound name).1
      · rw [hen, average_bytes hsum]
        exact (quotient_iff_fits hpos hlen).mpr (hbound name).2

end Main

/-- All sums but the last of a `uint64` fit, whatever a float that does not fit is converted to. -/
theorem fits_of_lt {outOfRange : ℚ → UInt64} {count sum : ℕ} (h : sum < 2 ^ 64 - 1024) :
    Fits outOfRange count sum :=
  ⟨by omega, fun _ hle => absurd h (by omega)⟩

/-- A map ranged over in the order of its entries. -/
theorem ranges_entries : Ranges fun m => m.entries.map fun e => e.2 := fun _ => .rfl

/-- Two records of two containers, with an old entry and a new one for each. -/
def twoRecords : List (List StatsJson) :=
  [[⟨some "web", some 2, some 100, some 1, none, none⟩,
      ⟨some "db", some 4, some 300, none, none, some (3000, 5000)⟩],
    [⟨some "db", some 6, some 500, some (1 / 2), some 3, none⟩,
      ⟨some "web", some 4, some 101, none, none, some (1000001, 0)⟩]]

end ContainerAverages

end Beszel
