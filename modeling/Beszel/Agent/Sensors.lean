import Beszel.Common.Rounding
import Beszel.Common.Stats
import Beszel.Common.Text
import Beszel.Machinery.Renaming

/-!
# Agent/Sensors — the temperatures of a sample

    temps ──reasonable?──▸ readings ──taken? "_i"──▸ names ──isValidSensor──▸ Temperatures
                                                                     ╰──▸ DashboardTemp

`updateTemperatures` of `agent/sensors.go`.  A reading whose key is in the map already is renamed
with its place in the list, and only then are the names filtered.  `keepsReadings_iff` says for
which readings none is lost.
-/

namespace Beszel

open Machinery

namespace Agent

namespace Sensors

/-! ## Temperatures -/

/-- A temperature as the library reads it: any number of type `float64`. -/
inductive Temperature
  | nan
  | negInfinity
  | infinity
  | celsius (degrees : ℚ)
  deriving DecidableEq, Repr

namespace Temperature

/-- `a < b`. -/
def lt : Temperature → Temperature → Bool
  | celsius a, celsius b => a < b
  | negInfinity, celsius _ => true
  | negInfinity, infinity => true
  | celsius _, infinity => true
  | _, _ => false

/-- `a <= b`. -/
def le (a b : Temperature) : Bool := a.lt b || (a = b && a ≠ nan)

/-- `a * n`, for an `n` that is positive. -/
def times (n : ℚ) : Temperature → Temperature
  | celsius a => celsius (a * n)
  | a => a

/-- `max` of Go: `NaN` wins. -/
def max : Temperature → Temperature → Temperature
  | nan, _ => nan
  | _, nan => nan
  | a, b => if a.lt b then b else a

/-- `twoDecimals`. -/
def twoDecimals : Temperature → Temperature
  | celsius a => celsius (Beszel.twoDecimals a)
  | a => a

/-- `scaleTemperature`. -/
def scaleTemperature (temp : Temperature) : Temperature :=
  if (celsius 1).lt temp then temp
  else
    let scaled100 := temp.times 100
    let scaled1000 := temp.times 1000
    if (celsius 15).le scaled100 && scaled100.le (celsius 95) then scaled100
    else if (celsius 15).le scaled1000 && scaled1000.le (celsius 95) then scaled1000
    else scaled100

/-- **The maximum of some temperatures**: `NaN` if that is one of them, and zero where there are
none. -/
def IsMaximum (m : Temperature) (temps : List Temperature) : Prop :=
  if temps = [] then m = celsius 0
  else if nan ∈ temps then m = nan
  else m ∈ temps ∧ ∀ t ∈ temps, m.lt t = false

end Temperature

/-! ## Sensors -/

/-- `sensors.TemperatureStat`. -/
structure TemperatureStat where
  sensorKey : String
  temperature : Temperature

/-- `SensorConfig`; the sensors are the keys of a map. -/
structure SensorConfig where
  sensors : List String
  primarySensor : String
  isBlacklist : Bool
  hasWildcards : Bool
  skipCollection : Bool

/-- The host: which keys are malformed, on a system where that is checked, and `path.Match`, which
fails on some patterns.  A `String` stands for any string of Go. -/
structure Host where
  malformed : String → Bool
  pathMatch : String → String → Option Bool

/-- `isValidSensor`. -/
def isValidSensor (host : Host) (sensorName : String) (config : SensorConfig) : Bool :=
  if config.sensors = [] then true
  else if sensorName ∈ config.sensors then !config.isBlacklist
  else if !config.hasWildcards then config.isBlacklist
  else if config.sensors.any fun pattern =>
      GoText.contains pattern "*" && host.pathMatch pattern sensorName = some true then
    !config.isBlacklist
  else config.isBlacklist

/-- A reading: the place of a sensor in the list, its key, and its temperature in degrees. -/
structure Reading where
  index : ℕ
  key : String
  temperature : Temperature
  deriving DecidableEq

/-- The name of a reading whose key is in the map already. -/
def Reading.renamed (r : Reading) : String := r.key ++ "_" ++ toString r.index

/-- The first half of the loop of `updateTemperatures`: what is unreasonable is skipped. -/
def reading (host : Host) (sensor : TemperatureStat × ℕ) : Option Reading :=
  let (⟨sensorKey, temperature⟩, i) := sensor
  if host.malformed sensorKey then none
  else
    let temperature :=
      if temperature ≠ .celsius 0 ∧ temperature.lt (.celsius 1) then temperature.scaleTemperature
      else temperature
    if temperature.le (.celsius 0) || (Temperature.celsius 200).le temperature then none
    else some ⟨i, sensorKey, temperature⟩

/-- What `updateTemperatures` writes. -/
structure State where
  dashboardTemp : Temperature
  temperatures : GoMap Temperature

/-- "If key already exists, append int to key." -/
def Reading.sensorName (r : Reading) (temperatures : GoMap Temperature) : String :=
  if r.key ∈ temperatures then r.renamed else r.key

/-- The second half of the loop. -/
def store (host : Host) (config : SensorConfig) (state : State) (r : Reading) : State :=
  let sensorName := r.sensorName state.temperatures
  if !isValidSensor host sensorName config then state
  else
    { dashboardTemp :=
        if config.primarySensor = "" then state.dashboardTemp.max r.temperature
        else if config.primarySensor = sensorName then r.temperature
        else state.dashboardTemp
      temperatures := state.temperatures.insert sensorName r.temperature.twoDecimals }

/-- One sensor in the loop of `updateTemperatures`. -/
def collect (host : Host) (config : SensorConfig) (state : State)
    (sensor : TemperatureStat × ℕ) : State :=
  match reading host sensor with
  | none => state
  | some r => store host config state r

/-- **`updateTemperatures`**, with what the two attempts to read the sensors return: `none` is a
panic. -/
def updateTemperatures (host : Host) (config : SensorConfig)
    (first second : Option (List TemperatureStat)) (state : State) : State :=
  if config.skipCollection then state
  else
    let state := { state with dashboardTemp := .celsius 0 }
    match first.or second with
    | none => { state with temperatures := ∅ }
    | some [] => state
    | some temps => temps.zipIdx.foldl (collect host config) { state with temperatures := ∅ }

/-! ## What is accepted, and what is kept -/

/-- The readings that pass the two filters; a whitelist that is empty accepts none. -/
def accepted (host : Host) (config : SensorConfig) (temps : List TemperatureStat) : List Reading :=
  if config.skipCollection then []
  else (temps.zipIdx.filterMap (reading host)).filter (isValidSensor host ·.key config)

/-- **No reading is lost**: each is stored, under a name of its own, and there is nothing else; the
maximum is on the dashboard if no sensor is the primary one. -/
structure KeepsReadings (config : SensorConfig) (readings : List Reading) (state : State) :
    Prop where
  stored : ∃ name : Reading → String, Set.InjOn name {r | r ∈ readings} ∧ ∀ r ∈ readings,
    (name r = r.key ∨ name r = r.renamed) ∧
      state.temperatures.lookup (name r) = some r.temperature.twoDecimals
  count : state.temperatures.entries.length = readings.length
  dashboard : config.primarySensor = "" → config.skipCollection = false →
    state.dashboardTemp.IsMaximum (readings.map (·.temperature))

/-- The place of a reading is what comes after the last underscore of its new name. -/
theorem rtakeWhile_renamed (r : Reading) :
    r.renamed.toList.rtakeWhile (· ≠ '_') = Nat.toDigits 10 r.index := by
  have hchars : r.renamed.toList = r.key.toList ++ '_' :: Nat.toDigits 10 r.index := by
    have hseparator : "_".toList = ['_'] := rfl
    rw [Reading.renamed, String.toList_append, String.toList_append, hseparator,
      Nat.toString_eq_repr, Nat.toList_repr, List.append_assoc, List.singleton_append]
  have hdigits : ∀ c ∈ (Nat.toDigits 10 r.index).reverse, decide (c ≠ '_') = true := by
    intro c hc
    refine decide_eq_true ?_
    rintro rfl
    exact Nat.underscore_not_in_toDigits (List.mem_reverse.mp hc)
  rw [hchars, List.rtakeWhile, List.reverse_append, List.reverse_cons, List.append_assoc,
    List.takeWhile_append_of_pos hdigits, List.singleton_append,
    List.takeWhile_cons_of_neg (by decide), List.append_nil, List.reverse_reverse]

theorem index_of_renamed {r r' : Reading} (h : r.renamed = r'.renamed) : r.index = r'.index := by
  have hdigits : Nat.toDigits 10 r.index = Nat.toDigits 10 r'.index := by
    rw [← rtakeWhile_renamed, ← rtakeWhile_renamed, h]
  have hindex := congrArg (Nat.ofDigitChars 10 · 0) hdigits
  simpa only [Nat.ofDigitChars_ten_toDigits] using hindex

/-- Readings are renamed with their places. -/
def places : Renaming Reading String where
  index := Reading.index
  key := Reading.key
  renamed := Reading.renamed
  renamed_inj := index_of_renamed

/-- **No reading is renamed away**: one whose key is taken has a new name that passes the filter and
is not the key of an accepted reading before it. -/
def NoneLost (host : Host) (config : SensorConfig) (readings : List Reading) : Prop :=
  ∀ r ∈ readings, places.Kept readings (isValidSensor host · config = true) r

/-! ## The loop -/

variable {host : Host} {config : SensorConfig} {state : State} {r : Reading}

/-- Every name in the map passes the filter. -/
def Valid (host : Host) (config : SensorConfig) (state : State) : Prop :=
  ∀ k ∈ state.temperatures, isValidSensor host k config = true

/-- A reading whose name does not pass the filter changes nothing. -/
theorem store_of_invalid
    (h : isValidSensor host (r.sensorName state.temperatures) config ≠ true) :
    store host config state r = state :=
  if_pos (by simpa using h)

/-- A reading whose name passes the filter is put under it. -/
theorem store_of_valid
    (h : isValidSensor host (r.sensorName state.temperatures) config = true) :
    store host config state r =
      { dashboardTemp :=
          if config.primarySensor = "" then state.dashboardTemp.max r.temperature
          else if config.primarySensor = r.sensorName state.temperatures then r.temperature
          else state.dashboardTemp
        temperatures := state.temperatures.insert (r.sensorName state.temperatures)
          r.temperature.twoDecimals } :=
  if_neg (by simpa using h)

theorem valid_store (h : Valid host config state) (r : Reading) :
    Valid host config (store host config state r) := by
  by_cases hvalid : isValidSensor host (r.sensorName state.temperatures) config = true
  · rw [store_of_valid hvalid]
    intro k hk
    rcases (AList.mem_insert _).mp hk with rfl | hk
    · exact hvalid
    · exact h k hk
  · rwa [store_of_invalid hvalid]

/-- **The loop stores the accepted readings**: a key in the map passes the filter, and so a reading
whose key does not is dropped under its own name. -/
theorem foldl_collect (h : Valid host config state) (l : List (TemperatureStat × ℕ)) :
    l.foldl (collect host config) state
      = ((l.filterMap (reading host)).filter (isValidSensor host ·.key config)).foldl
          (store host config) state := by
  induction l generalizing state with
  | nil => rfl
  | cons sensor l ih =>
    rw [List.foldl_cons, List.filterMap_cons, collect]
    cases reading host sensor with
    | none => exact ih h
    | some r =>
      dsimp only
      rw [ih (valid_store h r)]
      by_cases hvalid : isValidSensor host r.key config = true
      · rw [List.filter_cons, if_pos hvalid, List.foldl_cons]
      · have hname : r.sensorName state.temperatures = r.key :=
          if_neg fun hkey => hvalid (h r.key hkey)
        rw [List.filter_cons, if_neg hvalid, store_of_invalid (by rwa [hname])]

/-! ## What is stored -/

theorem length_insert_of_notMem {m : GoMap Temperature} {k : String} (h : k ∉ m)
    (t : Temperature) : (m.insert k t).entries.length = m.entries.length + 1 := by
  rw [AList.entries_insert_of_notMem h, List.length_cons]

theorem length_insert_of_mem {m : GoMap Temperature} {k : String} (h : k ∈ m) (t : Temperature) :
    (m.insert k t).entries.length = m.entries.length := by
  have hkeys : ∀ m : GoMap Temperature, m.keys.length = m.entries.length := fun m =>
    List.length_map Sigma.fst
  have hpos := List.length_pos_of_mem (AList.mem_keys.mp h)
  rw [← hkeys, ← hkeys, AList.keys_insert, List.length_cons,
    List.length_erase_of_mem (AList.mem_keys.mp h)]
  omega

/-- **The map once some of the readings are stored**, each under its name. -/
structure Stored (config : SensorConfig) (readings done : List Reading) (state : State) :
    Prop where
  mem : ∀ k, k ∈ state.temperatures ↔ ∃ r ∈ done, places.name readings r = k
  lookup : ∀ r ∈ done, state.temperatures.lookup (places.name readings r)
    = some r.temperature.twoDecimals
  count : state.temperatures.entries.length = done.length
  dashboard : config.primarySensor = "" →
    state.dashboardTemp = (done.map (·.temperature)).foldl .max (.celsius 0)

variable {readings done rest : List Reading}

/-- What is done are the readings before the next one. -/
theorem mem_done (hsorted : readings.Pairwise (·.index < ·.index))
    (hsplit : readings = done ++ r :: rest) {r' : Reading} :
    r' ∈ done ↔ r' ∈ readings ∧ r'.index < r.index := by
  subst hsplit
  obtain ⟨-, hrest, hbefore⟩ := List.pairwise_append.mp hsorted
  constructor
  · exact fun h => ⟨List.mem_append_left _ h, hbefore r' h r List.mem_cons_self⟩
  · rintro ⟨hmem, hlt⟩
    rcases List.mem_append.mp hmem with hmem | hmem
    · exact hmem
    · rcases List.mem_cons.mp hmem with rfl | hmem
      · exact absurd hlt (lt_irrefl _)
      · exact absurd hlt ((List.pairwise_cons.mp hrest).1 r' hmem).asymm

/-- **The key of the next reading is in the map** if it is taken. -/
theorem key_mem_iff (hsorted : readings.Pairwise (·.index < ·.index))
    (hsplit : readings = done ++ r :: rest) (h : Stored config readings done state) :
    r.key ∈ state.temperatures ↔ places.Taken readings r := by
  rw [h.mem, Renaming.taken_iff]
  constructor
  · rintro ⟨r', hr', hname⟩
    obtain ⟨hmem, hlt⟩ := (mem_done hsorted hsplit).mp hr'
    exact ⟨r', hmem, hlt, hname⟩
  · rintro ⟨r', hmem, hlt, hname⟩
    exact ⟨r', (mem_done hsorted hsplit).mpr ⟨hmem, hlt⟩, hname⟩

/-- The loop finds the name of a reading. -/
theorem sensorName_eq (hsorted : readings.Pairwise (·.index < ·.index))
    (hsplit : readings = done ++ r :: rest) (h : Stored config readings done state) :
    r.sensorName state.temperatures = places.name readings r := by
  classical
  exact if_congr (key_mem_iff hsorted hsplit h) rfl rfl

/-- The name of a reading that is kept passes the filter. -/
theorem valid_name (hvalid : isValidSensor host r.key config = true)
    (hkept : places.Kept readings (isValidSensor host · config = true) r) :
    isValidSensor host (places.name readings r) config = true := by
  by_cases htaken : places.Taken readings r
  · rw [Renaming.name_of_taken htaken]
    exact (hkept htaken).1
  · rwa [Renaming.name_of_not_taken htaken]

/-- A reading that is kept is stored under its name. -/
theorem stored_store (hsorted : readings.Pairwise (·.index < ·.index))
    (hsplit : readings = done ++ r :: rest) (hvalid : isValidSensor host r.key config = true)
    (hkept : places.Kept readings (isValidSensor host · config = true) r)
    (h : Stored config readings done state) :
    Stored config readings (done ++ [r]) (store host config state r) := by
  have hname := sensorName_eq hsorted hsplit h
  have hne : ∀ r' ∈ done, places.name readings r' ≠ places.name readings r := by
    intro r' hr'
    obtain ⟨hmem, hlt⟩ := (mem_done hsorted hsplit).mp hr'
    exact hkept.name_ne hmem hlt
  have hnew : places.name readings r ∉ state.temperatures := by
    rw [h.mem]
    rintro ⟨r', hr', hsame⟩
    exact hne r' hr' hsame
  rw [store_of_valid (hname ▸ valid_name hvalid hkept), hname]
  refine ⟨fun k => ?_, ?_, ?_, fun hprimary => ?_⟩
  · rw [AList.mem_insert, h.mem]
    simp only [List.mem_append, List.mem_singleton, or_and_right, exists_or, exists_eq_left]
    rw [or_comm, eq_comm (a := k)]
  · intro r' hr'
    rcases List.mem_append.mp hr' with hr' | hr'
    · rw [AList.lookup_insert_ne (hne r' hr')]
      exact h.lookup r' hr'
    · rw [List.mem_singleton.mp hr', AList.lookup_insert]
  · rw [length_insert_of_notMem hnew, h.count, List.length_append, List.length_singleton]
  · rw [if_pos hprimary, h.dashboard hprimary, List.map_append, List.foldl_append]
    rfl

/-- A reading adds one entry at most. -/
theorem length_store_le (r : Reading) :
    (store host config state r).temperatures.entries.length
      ≤ state.temperatures.entries.length + 1 := by
  by_cases hvalid : isValidSensor host (r.sensorName state.temperatures) config = true
  · rw [store_of_valid hvalid]
    by_cases hmem : r.sensorName state.temperatures ∈ state.temperatures
    · rw [length_insert_of_mem hmem]
      exact Nat.le_succ _
    · rw [length_insert_of_notMem hmem]
  · rw [store_of_invalid hvalid]
    exact Nat.le_succ _

/-- A reading that is not kept adds none: it is dropped, or it overwrites another one. -/
theorem length_store_of_not_kept (hsorted : readings.Pairwise (·.index < ·.index))
    (hsplit : readings = done ++ r :: rest)
    (hlost : ¬ places.Kept readings (isValidSensor host · config = true) r)
    (h : Stored config readings done state) :
    (store host config state r).temperatures.entries.length
      = state.temperatures.entries.length := by
  obtain ⟨htaken, hoverwrites⟩ := Renaming.taken_of_not_kept hlost
  have hrenamed : r.sensorName state.temperatures = r.renamed :=
    if_pos ((key_mem_iff hsorted hsplit h).mpr htaken)
  by_cases hvalid : isValidSensor host r.renamed config = true
  · obtain ⟨r', hmem, hlt, hname⟩ := hoverwrites hvalid
    have hthere : r.renamed ∈ state.temperatures :=
      (h.mem _).mpr ⟨r', (mem_done hsorted hsplit).mpr ⟨hmem, hlt⟩, hname⟩
    rw [store_of_valid (hrenamed ▸ hvalid), hrenamed, length_insert_of_mem hthere]
  · rw [store_of_invalid (hrenamed ▸ hvalid)]

/-- **The loop over accepted readings**: they are stored as long as each is kept, and from the first
one on that is not there are fewer entries than readings. -/
theorem foldl_store (hsorted : readings.Pairwise (·.index < ·.index))
    (hvalid : ∀ r ∈ readings, isValidSensor host r.key config = true)
    (hsplit : readings = done ++ rest) :
    ((∀ r ∈ done, places.Kept readings (isValidSensor host · config = true) r) ∧
      Stored config readings done (done.foldl (store host config) ⟨.celsius 0, ∅⟩)) ∨
    ((¬ ∀ r ∈ done, places.Kept readings (isValidSensor host · config = true) r) ∧
      (done.foldl (store host config) ⟨.celsius 0, ∅⟩).temperatures.entries.length
        < done.length) := by
  induction done using List.reverseRecOn generalizing rest with
  | nil =>
    refine .inl ⟨by simp, ?_, by simp, rfl, fun _ => rfl⟩
    exact fun k => iff_of_false (AList.notMem_empty k) (by simp)
  | append_singleton done r ih =>
    rw [List.append_assoc, List.singleton_append] at hsplit
    rw [List.foldl_append, List.foldl_cons, List.foldl_nil, List.length_append,
      List.length_singleton]
    rcases ih hsplit with ⟨hkept, hstored⟩ | ⟨hlost, hfewer⟩
    · by_cases hr : places.Kept readings (isValidSensor host · config = true) r
      · refine .inl ⟨?_, stored_store hsorted hsplit (hvalid r (by simp [hsplit])) hr hstored⟩
        intro r' hr'
        rcases List.mem_append.mp hr' with hr' | hr'
        · exact hkept r' hr'
        · rwa [List.mem_singleton.mp hr']
      · refine .inr ⟨fun hall => hr (hall r (by simp)), ?_⟩
        rw [length_store_of_not_kept hsorted hsplit hr hstored, hstored.count]
        exact Nat.lt_succ_self _
    · refine .inr ⟨fun hall => hlost fun r' hr' => hall r' (List.mem_append_left _ hr'), ?_⟩
      exact (length_store_le r).trans_lt (Nat.succ_lt_succ hfewer)

/-! ## The dashboard -/

namespace Temperature

/-- A temperature that is not unreasonable: `NaN` loses every comparison. -/
def Warm (t : Temperature) : Prop := t = nan ∨ ∃ degrees, 0 < degrees ∧ t = celsius degrees

theorem warm_of_reasonable {t : Temperature} (hlow : t.le (celsius 0) = false)
    (hhigh : (celsius 200).le t = false) : t.Warm := by
  cases t with
  | nan => exact .inl rfl
  | negInfinity => cases hlow
  | infinity => cases hhigh
  | celsius degrees =>
    refine .inr ⟨degrees, ?_, rfl⟩
    simp only [le, lt, Bool.or_eq_false_iff, decide_eq_false_iff_not, not_lt] at hlow
    refine lt_of_le_of_ne hlow.1 ?_
    rintro rfl
    simp at hlow

/-- `NaN` is the maximum as soon as it is there. -/
theorem isMaximum_nan {temps : List Temperature} (h : nan ∈ temps) : IsMaximum nan temps := by
  unfold IsMaximum
  rw [if_neg (List.ne_nil_of_mem h), if_pos h]

/-- **One more temperature.** -/
theorem isMaximum_append {m t : Temperature} {temps : List Temperature} (h : IsMaximum m temps)
    (htemps : ∀ t ∈ temps, t.Warm) (ht : t.Warm) : IsMaximum (m.max t) (temps ++ [t]) := by
  rcases ht with rfl | ⟨degrees, hpos, rfl⟩
  · have hmax : m.max nan = nan := by cases m <;> rfl
    rw [hmax]
    exact isMaximum_nan (by simp)
  unfold IsMaximum at h
  split_ifs at h with hnil hnan
  · -- the first temperature is above zero
    rw [h, hnil]
    have hmax : (celsius 0).max (celsius degrees) = celsius degrees := by simp [max, lt, hpos]
    rw [hmax]
    simp [IsMaximum, lt]
  · rw [h]
    exact isMaximum_nan (List.mem_append_left _ hnan)
  · obtain ⟨hmem, hgreatest⟩ := h
    obtain rfl | ⟨a, -, rfl⟩ := htemps m hmem
    · exact absurd hmem hnan
    have hmax : (celsius a).max (celsius degrees)
        = if a < degrees then celsius degrees else celsius a := by simp [max, lt]
    have hbelow : ∀ t ∈ temps, ∃ b ≤ a, t = celsius b := by
      intro t ht
      obtain rfl | ⟨b, -, rfl⟩ := htemps t ht
      · exact absurd ht hnan
      · exact ⟨b, by simpa [lt] using hgreatest _ ht, rfl⟩
    rw [hmax, IsMaximum, if_neg (by simp), if_neg (by simpa using hnan)]
    constructor
    · split_ifs
      · simp
      · exact List.mem_append_left _ hmem
    · intro t ht
      rcases List.mem_append.mp ht with ht | ht
      · obtain ⟨b, hb, rfl⟩ := hbelow t ht
        split_ifs with hlt
        · simpa [lt] using hb.trans hlt.le
        · simpa [lt] using hb
      · rw [List.mem_singleton.mp ht]
        split_ifs with hlt
        · simp [lt]
        · simpa [lt] using hlt

/-- **The loop takes the maximum.** -/
theorem isMaximum_foldl {temps : List Temperature} (h : ∀ t ∈ temps, t.Warm) :
    IsMaximum (temps.foldl max (celsius 0)) temps := by
  induction temps using List.reverseRecOn with
  | nil => exact rfl
  | append_singleton temps t ih =>
    rw [List.foldl_append, List.foldl_cons, List.foldl_nil]
    have htemps : ∀ t ∈ temps, t.Warm := fun t ht => h t (List.mem_append_left _ ht)
    exact isMaximum_append (ih htemps) htemps (h t (by simp))

end Temperature

/-! ## The sample -/

/-- A reading has the place of its sensor and a temperature that is not unreasonable. -/
theorem reading_eq_some {sensor : TemperatureStat × ℕ} (h : reading host sensor = some r) :
    r.index = sensor.2 ∧ r.temperature.Warm := by
  unfold reading at h
  dsimp only at h
  split_ifs at h with hmalformed hscale hreasonable hreasonable
  all_goals
    obtain rfl := Option.some.inj h
    simp only [Bool.or_eq_true, not_or, Bool.not_eq_true] at hreasonable
    exact ⟨rfl, Temperature.warm_of_reasonable hreasonable.1 hreasonable.2⟩

/-- What is accepted where the sensors are read at all. -/
theorem accepted_of_collected (h : config.skipCollection = false)
    (temps : List TemperatureStat) :
    accepted host config temps =
      (temps.zipIdx.filterMap (reading host)).filter (isValidSensor host ·.key config) :=
  if_neg (by simp [h])

/-- The accepted readings stand in the order of the sensors. -/
theorem pairwise_accepted (temps : List TemperatureStat) :
    (accepted host config temps).Pairwise (·.index < ·.index) := by
  unfold accepted
  split_ifs
  · exact List.Pairwise.nil
  · have hplaces : temps.zipIdx.Pairwise (·.2 < ·.2) := by
      rw [← List.pairwise_map, List.zipIdx_map_snd]
      exact List.pairwise_lt_range'
    refine (hplaces.filterMap _ ?_).filter _
    intro s s' hlt r hr r' hr'
    rw [(reading_eq_some hr).1, (reading_eq_some hr').1]
    exact hlt

theorem valid_of_accepted {temps : List TemperatureStat} (h : r ∈ accepted host config temps) :
    isValidSensor host r.key config = true := by
  unfold accepted at h
  split_ifs at h
  · cases h
  · exact (List.mem_filter.mp h).2

theorem warm_of_accepted {temps : List TemperatureStat} (h : r ∈ accepted host config temps) :
    r.temperature.Warm := by
  unfold accepted at h
  split_ifs at h
  · cases h
  · obtain ⟨sensor, -, hr⟩ := List.mem_filterMap.mp (List.mem_filter.mp h).1
    exact (reading_eq_some hr).2

/-- **`updateTemperatures` stores the accepted readings**, one after the other. -/
theorem updateTemperatures_eq (first second : Option (List TemperatureStat))
    (dashboardTemp : Temperature) :
    updateTemperatures host config first second ⟨dashboardTemp, ∅⟩ =
      (accepted host config ((first.or second).getD [])).foldl (store host config)
        ⟨if config.skipCollection then dashboardTemp else .celsius 0, ∅⟩ := by
  unfold updateTemperatures
  by_cases hskip : config.skipCollection = true
  · rw [if_pos hskip, if_pos hskip, accepted, if_pos hskip, List.foldl_nil]
  · rw [if_neg hskip, if_neg hskip, accepted_of_collected (by simpa using hskip)]
    have hvalid : Valid host config ⟨.celsius 0, ∅⟩ := fun k hk => absurd hk (AList.notMem_empty k)
    dsimp only
    rw [← foldl_collect hvalid]
    cases first.or second with
    | none => rfl
    | some temps =>
      cases temps with
      | nil => rfl
      | cons sensor temps => rfl

/-- **When no reading is lost**: where none is renamed away. -/
theorem keepsReadings_iff (host : Host) (config : SensorConfig)
    (first second : Option (List TemperatureStat)) (dashboardTemp : Temperature) :
    KeepsReadings config (accepted host config ((first.or second).getD []))
        (updateTemperatures host config first second ⟨dashboardTemp, ∅⟩) ↔
      NoneLost host config (accepted host config ((first.or second).getD [])) := by
  rw [updateTemperatures_eq]
  generalize (first.or second).getD [] = temps
  by_cases hskip : config.skipCollection = true
  · rw [accepted, if_pos hskip, if_pos hskip, List.foldl_nil]
    refine iff_of_true ⟨⟨Reading.key, by simp⟩, rfl, fun _ h => ?_⟩ fun r hr => absurd hr (by simp)
    rw [hskip] at h
    cases h
  · rw [if_neg hskip]
    have hsorted : (accepted host config temps).Pairwise (·.index < ·.index) :=
      pairwise_accepted temps
    have hvalid : ∀ r ∈ accepted host config temps, isValidSensor host r.key config = true :=
      fun r hr => valid_of_accepted hr
    rcases foldl_store hsorted hvalid (List.append_nil _).symm with ⟨hkept, h⟩ | ⟨hlost, hfewer⟩
    · refine iff_of_true ⟨?_, h.count, fun hprimary _ => ?_⟩ hkept
      · refine ⟨places.name (accepted host config temps), ?_, fun r hr => ⟨?_, h.lookup r hr⟩⟩
        · have hplaces : ((accepted host config temps).map Reading.index).Nodup :=
            (List.pairwise_map.mpr hsorted).imp Nat.ne_of_lt
          exact Renaming.injOn_name hkept (List.inj_on_of_nodup_map hplaces)
        · by_cases htaken : places.Taken (accepted host config temps) r
          · exact .inr (Renaming.name_of_taken htaken)
          · exact .inl (Renaming.name_of_not_taken htaken)
      · rw [h.dashboard hprimary]
        refine Temperature.isMaximum_foldl fun t ht => ?_
        obtain ⟨r, hr, rfl⟩ := List.mem_map.mp ht
        exact warm_of_accepted hr
    · exact iff_of_false (fun h => hfewer.ne h.count) hlost

/-- `a_2` and twice `a`: the third reading is renamed to `a_2`. -/
theorem keepsReadings_fails :
    ¬ ∀ host config first second dashboardTemp,
      KeepsReadings config (accepted host config ((first.or second).getD []))
        (updateTemperatures host config first second ⟨dashboardTemp, ∅⟩) := by
  intro hall
  have h := (hall ⟨fun _ => false, fun _ _ => none⟩ ⟨[], "", false, false, false⟩
    (some [⟨"a_2", .celsius 40⟩, ⟨"a", .celsius 50⟩, ⟨"a", .celsius 60⟩]) none .nan).count
  exact absurd h (by decide)

end Sensors

end Agent

end Beszel
