import Beszel.Agent.Sensors

/-!
# Agent/NameFilters — the filters of the `NICS` and `SENSORS` variables

    "-eth*, wlan0" ──'-'?──▸ mode ──split──▸ parts ──trim──▸ names ──▸ isValidNic
                                                               ╰─────▸ isValidSensor

`newNicConfig` and `isValidNic` of `agent/network.go`, and `newSensorConfigWithEnv` of
`agent/sensors.go`, whose matching is a copy of the former.  What a filter says of a name is
`Listed`, with the mode: `isValidNic_iff`.
-/

namespace Beszel

open Machinery

namespace Agent

namespace NameFilters

open Sensors (Host SensorConfig isValidSensor)

/-! ## The names of a filter -/

/-- The keys of the map that the loop over the parts of a filter fills, in the order in which the
map is walked, and the flag of the wildcards. -/
structure Names where
  keys : List String
  hasWildcards : Bool
  nodup : keys.Nodup
  wildcards : hasWildcards = keys.any (GoText.contains · "*")

/-- Before the loop. -/
def Names.empty : Names := ⟨[], false, List.nodup_nil, rfl⟩

theorem any_insert (keys : List String) (name : String) (p : String → Bool) :
    (keys.insert name).any p = (keys.any p || p name) := by
  by_cases h : name ∈ keys
  · rw [List.insert_of_mem h]
    cases hp : p name with
    | false => rw [Bool.or_false]
    | true =>
      rw [Bool.or_true]
      exact List.any_eq_true.mpr ⟨name, h, hp⟩
  · rw [List.insert_of_not_mem h, List.any_cons, Bool.or_comm]

/-- The loop body. -/
def Names.add (names : Names) (part : String) : Names :=
  let name := GoText.trimSpace part
  if name ≠ "" then
    { keys := names.keys.insert name
      hasWildcards := names.hasWildcards || GoText.contains name "*"
      nodup := names.nodup.insert
      wildcards := by rw [any_insert, names.wildcards] }
  else names

/-- The loop over the parts between the commas. -/
def readNames (text : String) : Names := (GoText.split text ',').foldl .add .empty

/-- A filter that starts with `-` is in blacklist mode. -/
def blacklistMode (envVal : String) : Bool := GoText.hasStart envVal "-"

/-- What is left of a filter when its mode is known. -/
def withoutMode (envVal : String) : String :=
  if blacklistMode envVal then String.ofList (envVal.toList.drop 1) else envVal

/-- `NicConfig`; the names are the keys of a map, in the order in which the map is walked. -/
structure NicConfig where
  nics : List String
  isBlacklist : Bool
  hasWildcards : Bool
  deriving DecidableEq, Repr

/-- The map, walked in another order. -/
def NicConfig.walked (cfg : NicConfig) (order : List String) : NicConfig :=
  { cfg with nics := order }

/-- `newNicConfig`. -/
def newNicConfig (nicsEnvVal : String) : NicConfig :=
  let names := readNames (withoutMode nicsEnvVal)
  { nics := names.keys
    isBlacklist := blacklistMode nicsEnvVal
    hasWildcards := names.hasWildcards }

/-- `newSensorConfigWithEnv`. -/
def newSensorConfigWithEnv (primarySensor sensorsEnvVal : String) (skipCollection : Bool) :
    SensorConfig :=
  let names := readNames (withoutMode sensorsEnvVal)
  { sensors := names.keys
    primarySensor
    isBlacklist := blacklistMode sensorsEnvVal
    hasWildcards := names.hasWildcards
    skipCollection }

/-- The map of the sensors, walked in another order. -/
def walkSensors (config : SensorConfig) (order : List String) : SensorConfig :=
  { config with sensors := order }

/-- `isValidNic`. -/
def isValidNic (pathMatch : String → String → Option Bool) (nicName : String) (cfg : NicConfig) :
    Bool :=
  if cfg.nics = [] then cfg.isBlacklist
  else if nicName ∈ cfg.nics then !cfg.isBlacklist
  else if !cfg.hasWildcards then cfg.isBlacklist
  else if cfg.nics.any fun pattern =>
      GoText.contains pattern "*" && pathMatch pattern nicName = some true then
    !cfg.isBlacklist
  else cfg.isBlacklist

example : newNicConfig "-eth*, ,wlan0,eth*" = ⟨["wlan0", "eth*"], true, true⟩ := by decide +kernel

/-! ## How a filter is written -/

/-- **The parts that list some names**: each name stands in one of them, in any number of spaces,
and there may be parts of spaces only anywhere. -/
inductive Spelled : List String → List (List Char) → Prop
  | nil : Spelled [] []
  | blank {items : List String} {parts : List (List Char)} {spaces : List Char} :
    (∀ c ∈ spaces, GoText.isSpace c) → Spelled items parts → Spelled items (spaces :: parts)
  | item {items : List String} {parts : List (List Char)} {before word after : List Char} :
    (∀ c ∈ before, GoText.isSpace c) → word ≠ [] → GoText.IsTrimmed word → ',' ∉ word →
      (∀ c ∈ after, GoText.isSpace c) → Spelled items parts →
      Spelled (String.ofList word :: items) ((before ++ word ++ after) :: parts)

/-- A text lists some names, with commas between the parts. -/
def Spells (items : List String) (text : String) : Prop :=
  ∃ parts, Spelled items parts ∧ parts ≠ [] ∧ text.toList = [','].intercalate parts

theorem notMem_spaces {spaces : List Char} (h : ∀ c ∈ spaces, GoText.isSpace c) : ',' ∉ spaces :=
  fun hc => absurd (h ',' hc) (by decide)

theorem Spelled.notMem {items : List String} {parts : List (List Char)} (h : Spelled items parts) :
    ∀ part ∈ parts, ',' ∉ part := by
  induction h with
  | nil => simp
  | blank hspaces _ ih => exact List.forall_mem_cons.mpr ⟨notMem_spaces hspaces, ih⟩
  | item hbefore _ _ hcomma hafter _ ih =>
    refine List.forall_mem_cons.mpr ⟨fun hc => ?_, ih⟩
    rcases List.mem_append.mp hc with hc | hc
    · rcases List.mem_append.mp hc with hc | hc
      · exact notMem_spaces hbefore hc
      · exact hcomma hc
    · exact notMem_spaces hafter hc

theorem trimSpace_spaces {spaces : List Char} (h : ∀ c ∈ spaces, GoText.isSpace c) :
    GoText.trimSpace (String.ofList spaces) = "" := by
  have htrim : GoText.trimSpace (String.ofList (spaces ++ [] ++ [])) = String.ofList [] :=
    GoText.trimSpace_pad h (GoText.isTrimmed_of_forall nofun) nofun
  simpa using htrim

/-- What the loop makes of the parts. -/
theorem Spelled.mem_iff {items : List String} {parts : List (List Char)} (h : Spelled items parts)
    (name : String) :
    (∃ part ∈ parts, GoText.trimSpace (String.ofList part) = name ∧ name ≠ "") ↔ name ∈ items := by
  induction h with
  | nil => simp
  | blank hspaces _ ih =>
    rw [List.exists_mem_cons_iff, ih, trimSpace_spaces hspaces]
    exact or_iff_right fun ⟨heq, hne⟩ => hne heq.symm
  | item hbefore hne htrim _ hafter _ ih =>
    rw [List.exists_mem_cons_iff, ih, GoText.trimSpace_pad hbefore htrim hafter, List.mem_cons,
      eq_comm (b := name)]
    refine or_congr (and_iff_left_of_imp fun heq => ?_) Iff.rfl
    rw [heq]
    simpa using hne

/-- Every list of parts lists some names. -/
theorem exists_spelled (parts : List (List Char)) (h : ∀ part ∈ parts, ',' ∉ part) :
    ∃ items, Spelled items parts := by
  induction parts with
  | nil => exact ⟨[], .nil⟩
  | cons part parts ih =>
    obtain ⟨hpart, hparts⟩ := List.forall_mem_cons.mp h
    obtain ⟨items, hitems⟩ := ih hparts
    obtain ⟨before, word, after, rfl, hbefore, htrim, hafter⟩ := GoText.exists_pad part
    by_cases hword : word = []
    · subst hword
      refine ⟨items, .blank (fun c hc => ?_) hitems⟩
      rw [List.append_nil] at hc
      exact (List.mem_append.mp hc).elim (hbefore c) (hafter c)
    · have hcomma : ',' ∉ word := fun hc =>
        hpart (List.mem_append_left _ (List.mem_append_right _ hc))
      exact ⟨String.ofList word :: items, .item hbefore hword htrim hcomma hafter hitems⟩

/-- **Every text lists some names.** -/
theorem exists_spells (text : String) : ∃ items, Spells items text := by
  obtain ⟨items, hitems⟩ := exists_spelled _ fun _ => notMem_of_mem_splitOn (l := text.toList)
  exact ⟨items, _, hitems, List.splitOn_ne_nil _ _, (List.intercalate_splitOn _).symm⟩

/-! ## What is read -/

theorem mem_keys_add (names : Names) (part name : String) : name ∈ (names.add part).keys ↔
    name ∈ names.keys ∨ GoText.trimSpace part = name ∧ name ≠ "" := by
  unfold Names.add
  by_cases h : GoText.trimSpace part = ""
  · simp only [h, ne_eq, not_true_eq_false, if_false]
    exact (or_iff_left fun ⟨heq, hne⟩ => hne heq.symm).symm
  · simp only [ne_eq, h, not_false_eq_true, if_true, List.mem_insert_iff]
    rw [or_comm, eq_comm]
    refine or_congr Iff.rfl (and_iff_left_of_imp fun heq => ?_).symm
    rwa [← heq]

theorem mem_keys_foldl (parts : List String) (names : Names) (name : String) :
    name ∈ (parts.foldl Names.add names).keys ↔
      name ∈ names.keys ∨ ∃ part ∈ parts, GoText.trimSpace part = name ∧ name ≠ "" := by
  induction parts generalizing names with
  | nil => simp
  | cons part parts ih =>
    rw [List.foldl_cons, ih, mem_keys_add, List.exists_mem_cons_iff, or_assoc]

/-- **The names that are read are those that the text lists.** -/
theorem mem_readNames {items : List String} {text : String} (h : Spells items text)
    (name : String) : name ∈ (readNames text).keys ↔ name ∈ items := by
  obtain ⟨parts, hparts, hne, htext⟩ := h
  have hsplit : GoText.split text ',' = parts.map String.ofList := by
    unfold GoText.split
    rw [htext, List.splitOn_intercalate _ hparts.notMem hne]
  rw [readNames, mem_keys_foldl, hsplit, ← hparts.mem_iff]
  simp [Names.empty]

/-! ## What a filter says of a name -/

/-- A name is listed as it is, or a pattern with a star that is listed matches it. -/
def Listed (pathMatch : String → String → Option Bool) (names : List String) (name : String) :
    Prop :=
  name ∈ names ∨
    ∃ pattern ∈ names, GoText.contains pattern "*" = true ∧ pathMatch pattern name = some true

theorem listed_congr {pathMatch : String → String → Option Bool} {names names' : List String}
    (h : ∀ name, name ∈ names ↔ name ∈ names') (name : String) :
    Listed pathMatch names name ↔ Listed pathMatch names' name := by
  unfold Listed
  simp only [h]

/-- **What `isValidNic` decides**: a whitelist takes the names that are listed, a blacklist the
others. -/
theorem isValidNic_iff {cfg : NicConfig}
    (hflag : cfg.hasWildcards = cfg.nics.any (GoText.contains · "*"))
    (pathMatch : String → String → Option Bool) (name : String) :
    isValidNic pathMatch name cfg = true ↔
      (Listed pathMatch cfg.nics name ↔ cfg.isBlacklist = false) := by
  have hyes (h : Listed pathMatch cfg.nics name) :
      (!cfg.isBlacklist) = true ↔ (Listed pathMatch cfg.nics name ↔ cfg.isBlacklist = false) := by
    rw [iff_true_left h, Bool.not_eq_true']
  have hno (h : ¬ Listed pathMatch cfg.nics name) :
      cfg.isBlacklist = true ↔ (Listed pathMatch cfg.nics name ↔ cfg.isBlacklist = false) := by
    rw [iff_false_left h, Bool.not_eq_false]
  unfold isValidNic
  split_ifs with hempty hexact hwild hany
  · refine hno fun h => ?_
    rw [hempty] at h
    rcases h with h | ⟨_, h, -⟩ <;> exact List.not_mem_nil h
  · exact hyes (.inl hexact)
  · -- The flag says that no name has a star.
    rw [Bool.not_eq_true', hflag, List.any_eq_false] at hwild
    refine hno fun h => ?_
    rcases h with h | ⟨pattern, hmem, hstar, -⟩
    · exact hexact h
    · exact hwild pattern hmem hstar
  · obtain ⟨pattern, hmem, hmatch⟩ := List.any_eq_true.mp hany
    rw [Bool.and_eq_true, decide_eq_true_eq] at hmatch
    exact hyes (.inr ⟨pattern, hmem, hmatch⟩)
  · refine hno fun h => ?_
    rcases h with h | ⟨pattern, hmem, hstar, hmatch⟩
    · exact hexact h
    · refine hany (List.any_eq_true.mpr ⟨pattern, hmem, ?_⟩)
      rw [hstar, hmatch]
      rfl

/-- **Where the copy differs**: without names every sensor is valid, in either mode. -/
theorem isValidSensor_eq (host : Host) (name : String) (config : SensorConfig) :
    isValidSensor host name config =
      if config.sensors = [] then true
      else isValidNic host.pathMatch name
        ⟨config.sensors, config.isBlacklist, config.hasWildcards⟩ := by
  unfold isValidSensor isValidNic
  by_cases h : config.sensors = []
  · rw [if_pos h, if_pos h]
  · simp only [if_neg h]

theorem newNicConfig_nics (envVal : String) :
    (newNicConfig envVal).nics = (readNames (withoutMode envVal)).keys := by
  rw [newNicConfig]

theorem newNicConfig_hasWildcards (envVal : String) :
    (newNicConfig envVal).hasWildcards =
      (newNicConfig envVal).nics.any (GoText.contains · "*") := by
  rw [newNicConfig_nics, newNicConfig, (readNames (withoutMode envVal)).wildcards]

theorem mem_nics {envVal : String} {items : List String} (h : Spells items (withoutMode envVal))
    (name : String) : name ∈ (newNicConfig envVal).nics ↔ name ∈ items := by
  rw [newNicConfig_nics, mem_readNames h]

/-- The map, walked in some order. -/
theorem isValidNic_walked_iff {cfg : NicConfig} {order : List String}
    (hflag : cfg.hasWildcards = cfg.nics.any (GoText.contains · "*"))
    (horder : order.Perm cfg.nics) (pathMatch : String → String → Option Bool) (name : String) :
    isValidNic pathMatch name (cfg.walked order) = true ↔
      (Listed pathMatch cfg.nics name ↔ cfg.isBlacklist = false) := by
  have hwalked : (cfg.walked order).hasWildcards =
      (cfg.walked order).nics.any (GoText.contains · "*") := hflag.trans horder.symm.any_eq
  refine (isValidNic_iff hwalked pathMatch name).trans (iff_congr ?_ Iff.rfl)
  exact listed_congr (fun _ => horder.mem_iff) name

/-- The names of a filter are those that are listed after the mode. -/
theorem isValidNic_walk {envVal : String} {items order : List String}
    (hitems : Spells items (withoutMode envVal)) (horder : order.Perm (newNicConfig envVal).nics)
    (pathMatch : String → String → Option Bool) (name : String) :
    isValidNic pathMatch name ((newNicConfig envVal).walked order) = true ↔
      (Listed pathMatch items name ↔ blacklistMode envVal = false) := by
  have hwalk := isValidNic_walked_iff (newNicConfig_hasWildcards envVal) horder pathMatch name
  rwa [listed_congr (mem_nics hitems)] at hwalk

theorem withoutMode_of_plain {s : String} (h : blacklistMode s = false) : withoutMode s = s :=
  if_neg (by rw [h]; decide)

theorem blacklistMode_dash (s : String) : blacklistMode ("-" ++ s) = true := by
  simp [blacklistMode, GoText.hasStart, String.toList_append]

theorem withoutMode_dash (s : String) : withoutMode ("-" ++ s) = s := by
  rw [withoutMode, if_pos (blacklistMode_dash s), String.toList_append]
  exact String.ofList_toList

/-- **A blacklist is the negation of the whitelist with the same text.** -/
theorem isValidNic_dual {s : String} {allowed denied : List String} (hs : blacklistMode s = false)
    (hallowed : allowed.Perm (newNicConfig s).nics)
    (hdenied : denied.Perm (newNicConfig ("-" ++ s)).nics)
    (pathMatch : String → String → Option Bool) (name : String) :
    isValidNic pathMatch name ((newNicConfig ("-" ++ s)).walked denied) =
      !isValidNic pathMatch name ((newNicConfig s).walked allowed) := by
  obtain ⟨items, hitems⟩ := exists_spells s
  have hdeny := isValidNic_walk (by rwa [withoutMode_dash]) hdenied pathMatch name
  have hallow := isValidNic_walk (by rwa [withoutMode_of_plain hs]) hallowed pathMatch name
  rw [blacklistMode_dash] at hdeny
  rw [hs] at hallow
  have hnot : (!isValidNic pathMatch name ((newNicConfig s).walked allowed)) = true ↔
      ¬ (Listed pathMatch items name ↔ false = false) := by
    rw [Bool.not_eq_true', ← Bool.not_eq_true, hallow]
  rw [Bool.eq_iff_iff, hdeny, hnot]
  simp

/-- Only the names count, not how they are written nor how the map is walked. -/
theorem isValidNic_respell {envVal envVal' : String} {items order order' : List String}
    (hmode : blacklistMode envVal = blacklistMode envVal')
    (hitems : Spells items (withoutMode envVal)) (hitems' : Spells items (withoutMode envVal'))
    (horder : order.Perm (newNicConfig envVal).nics)
    (horder' : order'.Perm (newNicConfig envVal').nics)
    (pathMatch : String → String → Option Bool) (name : String) :
    isValidNic pathMatch name ((newNicConfig envVal).walked order) =
      isValidNic pathMatch name ((newNicConfig envVal').walked order') := by
  rw [Bool.eq_iff_iff, isValidNic_walk hitems horder, isValidNic_walk hitems' horder', hmode]

/-- A filter that lists nothing takes everything or nothing. -/
theorem isValidNic_nil {cfg : NicConfig} (h : cfg.nics = [])
    (pathMatch : String → String → Option Bool) (name : String) :
    isValidNic pathMatch name cfg = cfg.isBlacklist := if_pos h

/-- The same filter, read by the copy. -/
theorem isValidSensor_walk (host : Host) (name primarySensor s : String) (skipCollection : Bool)
    (order : List String) :
    isValidSensor host name
        (walkSensors (newSensorConfigWithEnv primarySensor s skipCollection) order) =
      if order = [] then true
      else isValidNic host.pathMatch name ((newNicConfig s).walked order) := by
  rw [isValidSensor_eq, walkSensors, newSensorConfigWithEnv, NicConfig.walked, newNicConfig]

/-- Without a mode the text is what is read, and its first item is a name. -/
theorem blacklistMode_of_nics_nil {s : String} {items : List String} (hitems : Spells items s)
    (hne : items ≠ []) (hnics : (newNicConfig s).nics = []) : blacklistMode s = true := by
  by_contra hmode
  rw [Bool.not_eq_true] at hmode
  rw [← withoutMode_of_plain hmode] at hitems
  obtain ⟨item, hitem⟩ := List.exists_mem_of_ne_nil items hne
  have hmem := (mem_nics hitems item).mpr hitem
  rw [hnics] at hmem
  exact List.not_mem_nil hmem

/-- **The two copies agree** on every filter that has an item. -/
theorem isValidSensor_eq_isValidNic {s : String} {items order order' : List String}
    (hitems : Spells items s) (hne : items ≠ []) (primarySensor : String) (skipCollection : Bool)
    (horder : order.Perm (newSensorConfigWithEnv primarySensor s skipCollection).sensors)
    (horder' : order'.Perm (newNicConfig s).nics) (host : Host) (name : String) :
    isValidSensor host name
        (walkSensors (newSensorConfigWithEnv primarySensor s skipCollection) order) =
      isValidNic host.pathMatch name ((newNicConfig s).walked order') := by
  have hsame : order.Perm (newNicConfig s).nics := by
    rwa [newSensorConfigWithEnv, ← newNicConfig_nics] at horder
  rw [isValidSensor_walk]
  by_cases hnil : order = []
  · have hnics : (newNicConfig s).nics = [] := by
      rw [hnil] at hsame
      exact hsame.nil_eq.symm
    rw [hnics] at horder'
    rw [if_pos hnil, isValidNic_nil horder'.eq_nil]
    exact (blacklistMode_of_nics_nil hitems hne hnics).symm
  · obtain ⟨read, hread⟩ := exists_spells (withoutMode s)
    rw [if_neg hnil]
    exact isValidNic_respell rfl hread hread hsame horder' host.pathMatch name

/-! ## Duality and order -/

/-- **Name filters are dual and order-free**: `-` in front of a filter negates its answer; only the
names that a filter lists count, in whatever spaces and between whatever empty items, and every text
lists some; the maps may be walked in any order; and the filter of the sensors gives the answer of
the filter of the interfaces, wherever there is an item. -/
theorem nameFilters_dual_orderFree (host : Host) (name : String) :
    (∀ (s : String) (allowed denied : List String), GoText.hasStart s "-" = false →
      allowed.Perm (newNicConfig s).nics → denied.Perm (newNicConfig ("-" ++ s)).nics →
      isValidNic host.pathMatch name ((newNicConfig ("-" ++ s)).walked denied) =
        !isValidNic host.pathMatch name ((newNicConfig s).walked allowed)) ∧
    (∀ (items : List String) (s s' : String) (order order' : List String),
      Spells items s → Spells items s' →
      GoText.hasStart s "-" = false → GoText.hasStart s' "-" = false →
      (order.Perm (newNicConfig s).nics → order'.Perm (newNicConfig s').nics →
        isValidNic host.pathMatch name ((newNicConfig s).walked order) =
          isValidNic host.pathMatch name ((newNicConfig s').walked order')) ∧
      (order.Perm (newNicConfig ("-" ++ s)).nics → order'.Perm (newNicConfig ("-" ++ s')).nics →
        isValidNic host.pathMatch name ((newNicConfig ("-" ++ s)).walked order) =
          isValidNic host.pathMatch name ((newNicConfig ("-" ++ s')).walked order'))) ∧
    (∀ s : String, ∃ items, Spells items s) ∧
    ∀ (s : String) (items order order' : List String) (primarySensor : String)
      (skipCollection : Bool), Spells items s → items ≠ [] →
      order.Perm (newSensorConfigWithEnv primarySensor s skipCollection).sensors →
      order'.Perm (newNicConfig s).nics →
      isValidSensor host name
          (walkSensors (newSensorConfigWithEnv primarySensor s skipCollection) order) =
        isValidNic host.pathMatch name ((newNicConfig s).walked order') := by
  refine ⟨fun s allowed denied hs hallowed hdenied =>
      isValidNic_dual hs hallowed hdenied host.pathMatch name,
    fun items s s' order order' hitems hitems' hs hs' => ⟨fun horder horder' => ?_,
      fun horder horder' => ?_⟩,
    exists_spells,
    fun s items order order' primarySensor skipCollection hitems hne horder horder' =>
      isValidSensor_eq_isValidNic hitems hne primarySensor skipCollection horder horder' host name⟩
  · rw [← withoutMode_of_plain hs] at hitems
    rw [← withoutMode_of_plain hs'] at hitems'
    exact isValidNic_respell (hs.trans hs'.symm) hitems hitems' horder horder' host.pathMatch name
  · rw [← withoutMode_dash s] at hitems
    rw [← withoutMode_dash s'] at hitems'
    have hmode := (blacklistMode_dash s).trans (blacklistMode_dash s').symm
    exact isValidNic_respell hmode hitems hitems' horder horder' host.pathMatch name

/-- A host whose patterns are `eth*` and plain names. -/
def ethHost : Host where
  malformed _ := false
  pathMatch pattern name :=
    some (if pattern = "eth*" then GoText.hasStart name "eth" else pattern = name)

theorem spells_eth : Spells ["eth*", "wlan0"] "eth*, wlan0" := by
  have hnone : ∀ c ∈ [], GoText.isSpace c := nofun
  have hblank : ∀ c ∈ [' '], GoText.isSpace c := List.forall_mem_singleton.mpr rfl
  have hword {word : List Char} (h : word.all (!GoText.isSpace ·)) : GoText.IsTrimmed word :=
    GoText.isTrimmed_of_forall fun c hc => by simpa using List.all_eq_true.mp h c hc
  have hwlan : Spelled ["wlan0"] [[' ', 'w', 'l', 'a', 'n', '0']] :=
    @Spelled.item _ _ _ ['w', 'l', 'a', 'n', '0'] _ hblank (by simp) (hword (by decide))
      (by simp) hnone .nil
  have heth : Spelled ["eth*", "wlan0"] [['e', 't', 'h', '*'], [' ', 'w', 'l', 'a', 'n', '0']] :=
    @Spelled.item _ _ _ ['e', 't', 'h', '*'] _ hnone (by simp) (hword (by decide))
      (by simp) hnone hwlan
  exact ⟨_, heth, by simp, rfl⟩

theorem nameFilters_dual_orderFree_eth0 :
    isValidNic ethHost.pathMatch "eth0"
        ((newNicConfig ("-" ++ "eth*, wlan0")).walked ["eth*", "wlan0"]) =
      !isValidNic ethHost.pathMatch "eth0"
        ((newNicConfig "eth*, wlan0").walked ["wlan0", "eth*"]) ∧
    isValidNic ethHost.pathMatch "eth0" ((newNicConfig "eth*, wlan0").walked ["eth*", "wlan0"]) =
      isValidNic ethHost.pathMatch "eth0" ((newNicConfig "eth*, wlan0").walked ["wlan0", "eth*"]) ∧
    isValidSensor ethHost "eth0"
        (walkSensors (newSensorConfigWithEnv "" "eth*, wlan0" false) ["eth*", "wlan0"]) =
      isValidNic ethHost.pathMatch "eth0"
        ((newNicConfig "eth*, wlan0").walked ["wlan0", "eth*"]) := by
  obtain ⟨hdual, hfree, -, hcopy⟩ := nameFilters_dual_orderFree ethHost "eth0"
  have hswap : ["eth*", "wlan0"].Perm ["wlan0", "eth*"] := .swap ..
  have hnics : (newNicConfig "eth*, wlan0").nics = ["wlan0", "eth*"] := by decide +kernel
  have hdenied : (newNicConfig ("-" ++ "eth*, wlan0")).nics = ["wlan0", "eth*"] := by
    decide +kernel
  have hsensors : (newSensorConfigWithEnv "" "eth*, wlan0" false).sensors = ["wlan0", "eth*"] := by
    decide +kernel
  refine ⟨hdual "eth*, wlan0" ["wlan0", "eth*"] ["eth*", "wlan0"] (by decide) ?_ ?_, ?_,
    hcopy "eth*, wlan0" ["eth*", "wlan0"] ["eth*", "wlan0"] ["wlan0", "eth*"] "" false spells_eth
      (by simp) ?_ ?_⟩
  · rw [hnics]
  · rw [hdenied]
    exact hswap
  · refine (hfree ["eth*", "wlan0"] "eth*, wlan0" "eth*, wlan0" ["eth*", "wlan0"] ["wlan0", "eth*"]
      spells_eth spells_eth (by decide) (by decide)).1 ?_ ?_
    · rw [hnics]
      exact hswap
    · rw [hnics]
  · rw [hsensors]
    exact hswap
  · rw [hnics]

end NameFilters

end Agent

end Beszel
