import Beszel.Agent.Gpu
import Beszel.Common.Text

/-!
# Agent/IntelGpu — the rows of `intel_gpu_top`

    Freq MHz IRQ RC6 Power W   RCS     BCS        header 1 ──▸ engines
    req act  /s  %   gpu pkg   % se wa % se wa    header 2 ──▸ columns before the engines, power
      0   0   0  0  0.0  5.1   1  0  0 2  0  0    data     ──▸ sample

`parseIntelHeaders` and `parseIntelData` of `agent/gpu_intel.go`, and the loop of
`collectIntelStats` over them.  An access to a list answers `none` where the source panics.  The
numbers are of any type with a sum, as nothing depends on how they are rounded.
-/

namespace Beszel

namespace Agent

namespace IntelGpu

/-! ## The headers -/

/-- The name of a kind of engine. -/
def friendlyName (key : String) : Option String :=
  if key = "RCS" then some "Render/3D"
  else if key = "BCS" then some "Blitter"
  else if key = "VCS" then some "Video"
  else if key = "VECS" then some "VideoEnhance"
  else if key = "CCS" then some "Compute"
  else none

/-- The kind of engine in a column of the first header: digits and slashes at its end are cut. -/
def engineKey (col : String) : String :=
  String.ofList (col.toList.rdropWhile fun r => r.isDigit || r = '/')

/-- The engine of a column, with its name. -/
def engineOf (col : String) : Option (String × String) :=
  (friendlyName (engineKey col)).map fun friendly => (engineKey col, friendly)

/-- What `parseIntelHeaders` returns. -/
structure IntelColumns where
  engineNames : List String
  friendlyNames : List String
  powerIndex : ℤ
  preEngineCols : ℕ
  deriving DecidableEq, Repr

/-- The place of the power of the GPU, `-1` if it is not found. -/
def findPower (cols : List String) : ℤ :=
  match cols.findIdx? (GoText.equalFold · "gpu") with
  | some i => i
  | none => -1

/-- `parseIntelHeaders`. -/
def parseIntelHeaders (header1 header2 : String) : IntelColumns :=
  let h1 := GoText.fields header1
  let h2 := GoText.fields header2
  let engines := h1.filterMap engineOf
  let n := engines.length
  let preEngineCols := if n > 0 then h2.length - 3 * n else 0
  let limit := min h2.length preEngineCols
  { engineNames := engines.map (·.1)
    friendlyNames := engines.map (·.2)
    powerIndex := if n > 0 then findPower (h2.take limit) else -1
    preEngineCols }

/-! ## A row -/

/-- `intelGpuStats`, over any type of numbers; a map that is nil is empty. -/
structure IntelSample (F : Type) where
  powerGPU : F
  powerPkg : F
  engines : GoMap F

/-- `errNoValidData`. -/
def errNoValidData : String := "no valid GPU data found"

section Row

variable {F : Type} [Zero F] [Add F] (parseFloat : String → Option F)

/-- The power of the GPU and of the package. -/
def powers (fields : List String) (powerIndex : ℤ) : Option (F × F) :=
  if 0 ≤ powerIndex ∧ powerIndex < fields.length then
    fields[powerIndex.toNat]?.bind fun gpu =>
      fields[powerIndex.toNat + 1]?.map fun pkg =>
        ((parseFloat gpu).getD 0, (parseFloat pkg).getD 0)
  else some (0, 0)

/-- The loop body over the engines. -/
def addEngine (fields : List String) (columns : IntelColumns) (engines : GoMap F) (k : ℕ) :
    Option (GoMap F) :=
  columns.friendlyNames[k]?.bind fun name =>
    let base := columns.preEngineCols + 3 * k
    if base < fields.length then
      fields[base]?.map fun field =>
        engines.insert name ((engines.lookup name).getD 0 + (parseFloat field).getD 0)
    else some (engines.insert name 0)

/-- `parseIntelData`; `none` is an index that is out of range. -/
def parseIntelData (line : String) (columns : IntelColumns) :
    Option (Except String (IntelSample F)) :=
  let fields := GoText.fields line
  if fields.length = 0 then some (.error errNoValidData)
  else if fields.length < columns.preEngineCols + 3 * columns.engineNames.length then
    some (.error errNoValidData)
  else
    (powers parseFloat fields columns.powerIndex).bind fun (powerGPU, powerPkg) =>
      ((List.range columns.engineNames.length).foldlM (addEngine parseFloat fields columns) ∅).map
        fun engines => .ok ⟨powerGPU, powerPkg, engines⟩

/-! ## The sum of an engine -/

/-- The rows of columns, below the `k`-th, that belong to an engine. -/
def instances (engineNames : List String) (engine : String) (k : ℕ) : List ℕ :=
  (List.range k).filter fun i => engineNames[i]? = some engine

/-- The busy column of an instance, zero if it is no number. -/
def busy (fields : List String) (preEngineCols i : ℕ) : F :=
  (fields[preEngineCols + 3 * i]?.bind parseFloat).getD 0

/-- The sum of some busy columns, from the left. -/
def busySum (fields : List String) (preEngineCols : ℕ) (instances : List ℕ) : F :=
  (instances.map (busy parseFloat fields preEngineCols)).foldl (· + ·) 0

/-- The kinds of engines with their names. -/
def friendlyPairs : List (String × String) :=
  [("RCS", "Render/3D"), ("BCS", "Blitter"), ("VCS", "Video"), ("VECS", "VideoEnhance"),
    ("CCS", "Compute")]

theorem friendlyName_mem {key name : String} (h : friendlyName key = some name) :
    (key, name) ∈ friendlyPairs := by
  unfold friendlyName at h
  split_ifs at h with h1 h2 h3 h4 h5 <;>
  · obtain rfl := Option.some.inj h
    simp [friendlyPairs, *]

/-- **Two kinds of engines have two names.** -/
theorem friendlyName_injective {key key' name : String} (h : friendlyName key = some name)
    (h' : friendlyName key' = some name) : key = key' := by
  have hmem := friendlyName_mem h
  have hmem' := friendlyName_mem h'
  exact (by decide : ∀ p ∈ friendlyPairs, ∀ q ∈ friendlyPairs, p.2 = q.2 → p.1 = q.1) _ hmem _
    hmem' rfl

theorem instances_succ (engineNames : List String) (engine : String) (k : ℕ) :
    instances engineNames engine (k + 1) =
      instances engineNames engine k ++ if engineNames[k]? = some engine then [k] else [] := by
  unfold instances
  rw [List.range_succ, List.filter_append]
  split_ifs with h <;> simp [h]

theorem mem_instances_length {engineNames : List String} {engine : String} :
    instances engineNames engine engineNames.length ≠ [] ↔ engine ∈ engineNames := by
  unfold instances
  rw [ne_eq, List.filter_eq_nil_iff, List.mem_iff_getElem?]
  simp only [List.mem_range, decide_eq_true_eq, not_forall, not_not, exists_prop]
  refine exists_congr fun i => and_iff_right_of_imp fun h => ?_
  exact (List.getElem?_eq_some_iff.mp h).1

theorem busySum_concat (fields : List String) (preEngineCols : ℕ) (is : List ℕ) (i : ℕ) :
    busySum parseFloat fields preEngineCols (is ++ [i]) =
      busySum parseFloat fields preEngineCols is + busy parseFloat fields preEngineCols i := by
  unfold busySum
  rw [List.map_append, List.foldl_append]
  rfl

/-- **What the loop has made of the first `k` engines**: an entry with the sum for each of them. -/
structure Summed (fields : List String) (columns : IntelColumns) (k : ℕ) (engines : GoMap F) :
    Prop where
  lookup : ∀ engine name, friendlyName engine = some name →
    engines.lookup name =
      if instances columns.engineNames engine k = [] then none
      else some (busySum parseFloat fields columns.preEngineCols
        (instances columns.engineNames engine k))
  mem : ∀ name ∈ engines, ∃ engine ∈ columns.engineNames, friendlyName engine = some name

theorem Summed.zero (fields : List String) (columns : IntelColumns) :
    Summed parseFloat fields columns 0 ∅ :=
  ⟨fun _ _ _ => rfl, fun name hname => absurd hname (AList.notMem_empty name)⟩

/-- The sums after a round of the loop. -/
theorem Summed.insert {fields : List String} {columns : IntelColumns} {k : ℕ} {engines : GoMap F}
    {engine name : String} (h : Summed parseFloat fields columns k engines)
    (hengine : columns.engineNames[k]? = some engine)
    (hfriendly : friendlyName engine = some name) :
    Summed parseFloat fields columns (k + 1) (engines.insert name
      ((engines.lookup name).getD 0 + busy parseFloat fields columns.preEngineCols k)) := by
  refine ⟨fun other otherName hother => ?_, fun other hmem => ?_⟩
  · rw [instances_succ]
    by_cases heq : engine = other
    · subst heq
      obtain rfl := Option.some.inj (hfriendly.symm.trans hother)
      have hne : instances columns.engineNames engine k ++ [k] ≠ [] := by simp
      rw [if_pos hengine, AList.lookup_insert, if_neg hne, busySum_concat,
        h.lookup engine name hfriendly]
      split_ifs with hnil
      · rw [hnil]
        rfl
      · rfl
    · have hne : otherName ≠ name := by
        rintro rfl
        exact heq (friendlyName_injective hfriendly hother)
      have hother' : ¬ columns.engineNames[k]? = some other := fun hk =>
        heq (Option.some.inj (hengine.symm.trans hk))
      rw [if_neg hother', List.append_nil, AList.lookup_insert_ne hne]
      exact h.lookup other otherName hother
  · rcases (AList.mem_insert _).mp hmem with rfl | hmem
    · exact ⟨engine, List.mem_of_getElem? hengine, hfriendly⟩
    · exact h.mem other hmem

/-! ## Columns that fit together -/

/-- **What a row relies on**: the names of the engines go with them, and the power of the GPU is in
a column before the engines, if it is found. -/
structure Coherent (columns : IntelColumns) : Prop where
  named : ∀ k < columns.engineNames.length, ∃ engine name,
    columns.engineNames[k]? = some engine ∧ columns.friendlyNames[k]? = some name ∧
      friendlyName engine = some name
  power : columns.powerIndex = -1 ∨ ∃ i < columns.preEngineCols,
    columns.powerIndex = (i : ℕ) ∧ 0 < columns.engineNames.length

theorem findPower_lt {cols : List String} : findPower cols = -1 ∨
    ∃ i < cols.length, findPower cols = (i : ℕ) := by
  unfold findPower
  cases h : cols.findIdx? (GoText.equalFold · "gpu") with
  | none => exact .inl rfl
  | some i =>
    obtain ⟨hi, -⟩ := List.findIdx?_eq_some_iff_getElem.mp h
    exact .inr ⟨i, hi, rfl⟩

theorem parseIntelHeaders_coherent (header1 header2 : String) :
    Coherent (parseIntelHeaders header1 header2) where
  named k hk := by
    rw [parseIntelHeaders, List.length_map] at hk
    have hget := List.getElem?_eq_getElem hk
    obtain ⟨col, -, hcol⟩ := List.mem_filterMap.mp (List.getElem_mem hk)
    obtain ⟨friendly, hfriendly, hpair⟩ := Option.map_eq_some_iff.mp hcol
    refine ⟨engineKey col, friendly, ?_, ?_, hfriendly⟩
    · simp only [parseIntelHeaders, List.getElem?_map, hget, ← hpair, Option.map_some]
    · simp only [parseIntelHeaders, List.getElem?_map, hget, ← hpair, Option.map_some]
  power := by
    simp only [parseIntelHeaders, List.length_map]
    split_ifs with hn
    · refine findPower_lt.imp_right fun ⟨i, hi, hfind⟩ => ⟨i, ?_, hfind, hn⟩
      rw [List.length_take] at hi
      omega
    · exact .inl rfl

theorem Coherent.friendlyName_of_mem {columns : IntelColumns} (h : Coherent columns)
    {engine : String} (hmem : engine ∈ columns.engineNames) :
    ∃ name, friendlyName engine = some name := by
  obtain ⟨k, hk, hget⟩ := List.mem_iff_getElem.mp hmem
  obtain ⟨engine', name, hengine, -, hname⟩ := h.named k hk
  rw [List.getElem?_eq_getElem hk, hget] at hengine
  obtain rfl := Option.some.inj hengine
  exact ⟨name, hname⟩

/-- A round of the loop is in range. -/
theorem Coherent.exists_addEngine {columns : IntelColumns} (h : Coherent columns)
    {fields : List String} {k : ℕ} {engines : GoMap F} (hk : k < columns.engineNames.length)
    (hrange : columns.preEngineCols + 3 * k < fields.length)
    (hsummed : Summed parseFloat fields columns k engines) :
    ∃ engines', addEngine parseFloat fields columns engines k = some engines' ∧
      Summed parseFloat fields columns (k + 1) engines' := by
  obtain ⟨engine, name, hengine, hname, hfriendly⟩ := h.named k hk
  have hfield := List.getElem?_eq_getElem hrange
  refine ⟨_, ?_, hsummed.insert parseFloat hengine hfriendly⟩
  unfold addEngine busy
  rw [hname, Option.bind_some]
  simp only [if_pos hrange, hfield, Option.map_some, Option.bind_some]

/-- **The whole loop is in range** where the row has all columns. -/
theorem Coherent.exists_summed {columns : IntelColumns} (h : Coherent columns)
    {fields : List String}
    (hlen : columns.preEngineCols + 3 * columns.engineNames.length ≤ fields.length) :
    ∃ engines, (List.range columns.engineNames.length).foldlM
        (addEngine parseFloat fields columns) ∅ = some engines ∧
      Summed parseFloat fields columns columns.engineNames.length engines := by
  have hprefix (k : ℕ) (hk : k ≤ columns.engineNames.length) :
      ∃ engines, (List.range k).foldlM (addEngine parseFloat fields columns) ∅ = some engines ∧
        Summed parseFloat fields columns k engines := by
    induction k with
    | zero => exact ⟨∅, rfl, .zero parseFloat fields _⟩
    | succ k ih =>
      obtain ⟨engines, hfold, hsummed⟩ := ih (Nat.le_of_succ_le hk)
      obtain ⟨engines', hstep, hsummed'⟩ := h.exists_addEngine parseFloat hk (by omega) hsummed
      refine ⟨engines', ?_, hsummed'⟩
      rw [List.range_succ, List.foldlM_append, hfold]
      change (addEngine parseFloat fields _ engines k).bind _ = _
      rw [hstep]
      rfl
  exact hprefix _ le_rfl

omit [Add F] in
/-- **Both powers are in range** where the row has all columns. -/
theorem Coherent.exists_powers {columns : IntelColumns} (h : Coherent columns)
    {fields : List String}
    (hlen : columns.preEngineCols + 3 * columns.engineNames.length ≤ fields.length) :
    ∃ values, powers parseFloat fields columns.powerIndex = some values := by
  unfold powers
  rcases h.power with hnone | ⟨i, hi, hindex, hengines⟩
  · exact ⟨(0, 0), if_neg fun h => by omega⟩
  · rw [hindex, Int.toNat_natCast, if_pos ⟨Int.natCast_nonneg i, by omega⟩,
      List.getElem?_eq_getElem (by omega), List.getElem?_eq_getElem (by omega)]
    exact ⟨_, rfl⟩

/-! ## Every row -/

/-- A row is an error, or a sample with the sums. -/
theorem Coherent.parseIntelData_eq {columns : IntelColumns} (h : Coherent columns)
    (line : String) :
    parseIntelData parseFloat line columns = some (.error errNoValidData) ∨
      ∃ sample : IntelSample F, parseIntelData parseFloat line columns = some (.ok sample) ∧
        Summed parseFloat (GoText.fields line) columns columns.engineNames.length
          sample.engines := by
  unfold parseIntelData
  by_cases hempty : (GoText.fields line).length = 0
  · exact .inl (if_pos hempty)
  by_cases hshort : (GoText.fields line).length <
      columns.preEngineCols + 3 * columns.engineNames.length
  · exact .inl ((if_neg hempty).trans (if_pos hshort))
  obtain ⟨values, hvalues⟩ := h.exists_powers parseFloat (Nat.not_lt.mp hshort)
  obtain ⟨engines, hengines, hsummed⟩ := h.exists_summed parseFloat (Nat.not_lt.mp hshort)
  refine .inr ⟨⟨values.1, values.2, engines⟩, ?_, hsummed⟩
  simp only [if_neg hempty, if_neg hshort, hvalues, hengines, Option.bind_some, Option.map_some]

/-- **Rows never index out of range**: with the values of its headers every row is an error, or a
sample with one value for each distinct engine of the first header, which is the sum of the busy
columns of the instances of that engine, a column that is no number counting as zero. -/
theorem parseIntelData_inRange (header1 header2 line : String) :
    parseIntelData parseFloat line (parseIntelHeaders header1 header2) =
        some (.error errNoValidData) ∨
      ∃ sample : IntelSample F,
        parseIntelData parseFloat line (parseIntelHeaders header1 header2) = some (.ok sample) ∧
        (∀ name, name ∈ sample.engines ↔
          ∃ engine ∈ (parseIntelHeaders header1 header2).engineNames,
            friendlyName engine = some name) ∧
        (∀ engine engine' name, friendlyName engine = some name →
          friendlyName engine' = some name → engine = engine') ∧
        ∀ engine ∈ (parseIntelHeaders header1 header2).engineNames,
          ∃ name, friendlyName engine = some name ∧
            sample.engines.lookup name = some (busySum parseFloat (GoText.fields line)
              (parseIntelHeaders header1 header2).preEngineCols
              (instances (parseIntelHeaders header1 header2).engineNames engine
                (parseIntelHeaders header1 header2).engineNames.length)) := by
  have hcoherent := parseIntelHeaders_coherent header1 header2
  rcases hcoherent.parseIntelData_eq parseFloat line with herror | ⟨sample, hsample, hsummed⟩
  · exact .inl herror
  have hlookup (engine : String) (hmem : engine ∈ (parseIntelHeaders header1 header2).engineNames)
      (name : String) (hname : friendlyName engine = some name) :
      sample.engines.lookup name = some (busySum parseFloat (GoText.fields line)
        (parseIntelHeaders header1 header2).preEngineCols
        (instances (parseIntelHeaders header1 header2).engineNames engine
          (parseIntelHeaders header1 header2).engineNames.length)) := by
    rw [hsummed.lookup engine name hname, if_neg (mem_instances_length.mpr hmem)]
  refine .inr ⟨sample, hsample, fun name => ⟨hsummed.mem name, ?_⟩,
    fun _ _ _ => friendlyName_injective, fun engine hmem => ?_⟩
  · rintro ⟨engine, hmem, hname⟩
    exact AList.lookup_isSome.mp (by rw [hlookup engine hmem name hname]; rfl)
  · obtain ⟨name, hname⟩ := hcoherent.friendlyName_of_mem hmem
    exact ⟨name, hname, hlookup engine hmem name hname⟩

end Row

/-! ## The collector -/

section Collector

variable (parseFloat : String → Option ℚ)

/-- What `collectIntelStats` carries through its loop. -/
structure Collector where
  gm : Gpu.GpuManager
  header1 : String
  columns : IntelColumns
  skippedFirstDataRow : Bool
  hadDataRow : Bool

/-- Before any header. -/
def noColumns : IntelColumns := ⟨[], [], 0, 0⟩

/-- A sample, with exact numbers. -/
def IntelSample.stats (sample : IntelSample ℚ) : Gpu.IntelGpuStats :=
  ⟨sample.powerGPU, sample.powerPkg, sample.engines⟩

/-- The second header line; the first one is looked for before it. -/
def isHeader2 (text : String) : Bool :=
  !GoText.hasStart (GoText.trimSpace text) "Freq" && GoText.hasStart (GoText.trimSpace text) "req"

/-- A line with data. -/
def isDataRow (text : String) : Bool :=
  GoText.trimSpace text ≠ "" && !GoText.hasStart (GoText.trimSpace text) "Freq" && !isHeader2 text

/-- The loop of `collectIntelStats`, with its result for the output that is read to its end; `none`
is an index that is out of range. -/
def collectLines (s : Collector) : List String → Option (Gpu.GpuManager × Option String)
  | [] => some (s.gm, if s.hadDataRow then none else some errNoValidData)
  | text :: lines =>
    let line := GoText.trimSpace text
    if line = "" then collectLines s lines
    else if GoText.hasStart line "Freq" then collectLines { s with header1 := line } lines
    else if GoText.hasStart line "req" then
      collectLines { s with columns := parseIntelHeaders s.header1 line } lines
    else if !s.skippedFirstDataRow then collectLines { s with skippedFirstDataRow := true } lines
    else
      match parseIntelData parseFloat line s.columns with
      | none => none
      | some (.error err) => some (s.gm, some err)
      | some (.ok sample) =>
        collectLines
          { s with gm := Gpu.updateIntelFromStats s.gm sample.stats, hadDataRow := true } lines

/-- `collectIntelStats`, from the lines of the output. -/
def collectIntelStats (gm : Gpu.GpuManager) (lines : List String) :
    Option (Gpu.GpuManager × Option String) :=
  collectLines parseFloat ⟨gm, "", noColumns, false, false⟩ lines

/-- **After a header no row is out of range.** -/
theorem collectLines_isSome {s : Collector} (h : Coherent s.columns) (lines : List String) :
    (collectLines parseFloat s lines).isSome = true := by
  induction lines generalizing s with
  | nil => rfl
  | cons text lines ih =>
    rw [collectLines]
    split_ifs with hempty hfirst hsecond hskip
    · exact ih h
    · exact ih h
    · exact ih (parseIntelHeaders_coherent _ _)
    · exact ih h
    · rcases h.parseIntelData_eq parseFloat (GoText.trimSpace text) with
        herror | ⟨sample, hsample, -⟩
      · rw [herror]
        rfl
      · rw [hsample]
        exact ih h

/-- Before the headers the first two fields are read as powers. -/
theorem parseIntelData_noColumns {line : String} (h : GoText.fields line ≠ []) :
    ((GoText.fields line).length = 1 ∧ parseIntelData parseFloat line noColumns = none) ∨
      (GoText.fields line).length ≠ 1 ∧
        ∃ sample, parseIntelData parseFloat line noColumns = some (.ok sample) := by
  unfold parseIntelData
  rcases hfields : GoText.fields line with _ | ⟨first, _ | ⟨second, rest⟩⟩
  · exact absurd hfields h
  · exact .inl ⟨rfl, rfl⟩
  · have hpowers : powers parseFloat (first :: second :: rest) noColumns.powerIndex =
        some ((parseFloat first).getD 0, (parseFloat second).getD 0) :=
      if_pos ⟨le_rfl, Int.natCast_pos.mpr (Nat.succ_pos _)⟩
    refine .inr ⟨by simp, ⟨(parseFloat first).getD 0, (parseFloat second).getD 0, ∅⟩, ?_⟩
    simp only [hpowers]
    rfl

/-- The rows that are read before the second header, but for the first one. -/
def headlessRows (skippedFirstDataRow : Bool) (lines : List String) : List String :=
  ((lines.takeWhile (!isHeader2 ·)).filter isDataRow).drop (if skippedFirstDataRow then 0 else 1)

theorem headlessRows_header2 {text : String} (h : isHeader2 text = true) (skipped : Bool)
    (lines : List String) : headlessRows skipped (text :: lines) = [] := by
  simp [headlessRows, h]

theorem headlessRows_other {text : String} (hheader : isHeader2 text = false)
    (hrow : isDataRow text = false) (skipped : Bool) (lines : List String) :
    headlessRows skipped (text :: lines) = headlessRows skipped lines := by
  simp [headlessRows, hheader, hrow]

theorem headlessRows_row {text : String} (hheader : isHeader2 text = false)
    (hrow : isDataRow text = true) (skipped : Bool) (lines : List String) :
    headlessRows skipped (text :: lines) =
      if skipped then text :: headlessRows true lines else headlessRows true lines := by
  cases skipped <;> simp [headlessRows, hheader, hrow]

/-- A line that no branch before has taken is data. -/
theorem isDataRow_of_rest {text : String} (hempty : ¬ GoText.trimSpace text = "")
    (hfirst : ¬ GoText.hasStart (GoText.trimSpace text) "Freq" = true)
    (hsecond : ¬ GoText.hasStart (GoText.trimSpace text) "req" = true) :
    isHeader2 text = false ∧ isDataRow text = true := by
  have hheader : isHeader2 text = false := by simp [isHeader2, hsecond]
  exact ⟨hheader, by simp [isDataRow, hempty, hfirst, hheader]⟩

theorem fields_trimSpace_ne_nil {text : String} (h : ¬ GoText.trimSpace text = "") :
    GoText.fields (GoText.trimSpace text) ≠ [] := by
  rw [GoText.fields_trimSpace]
  exact fun hnil => h (GoText.trimSpace_eq_of_fields text hnil)

theorem collectLines_eq_none_iff {s : Collector} (h : s.columns = noColumns)
    (lines : List String) : collectLines parseFloat s lines = none ↔
      ∃ text ∈ headlessRows s.skippedFirstDataRow lines, (GoText.fields text).length = 1 := by
  induction lines generalizing s with
  | nil => simp [collectLines, headlessRows]
  | cons text lines ih =>
    rw [collectLines]
    split_ifs with hempty hfirst hsecond hskip
    · refine (ih h).trans ?_
      rw [headlessRows_other (by simp [isHeader2, hempty, GoText.hasStart])
        (by simp [isDataRow, hempty])]
    · refine Iff.trans (ih (by exact h)) ?_
      rw [headlessRows_other (by simp [isHeader2, hfirst]) (by simp [isDataRow, hfirst])]
    · -- From here on there are headers.
      rw [headlessRows_header2 (by simp [isHeader2, hfirst, hsecond])]
      refine iff_of_false (fun hnone => ?_) (by simp)
      have hsome := @collectLines_isSome parseFloat
        { s with columns := parseIntelHeaders s.header1 (GoText.trimSpace text) }
        (parseIntelHeaders_coherent _ _) lines
      rw [hnone] at hsome
      exact Bool.false_ne_true hsome
    · obtain ⟨hheader, hrow⟩ := isDataRow_of_rest hempty hfirst hsecond
      rw [Bool.not_eq_true'] at hskip
      refine Iff.trans (ih (by exact h)) ?_
      rw [headlessRows_row hheader hrow, hskip]
      rfl
    · obtain ⟨hheader, hrow⟩ := isDataRow_of_rest hempty hfirst hsecond
      rw [Bool.not_eq_true', Bool.not_eq_false] at hskip
      rw [headlessRows_row hheader hrow, if_pos hskip, List.exists_mem_cons_iff, h,
        ← GoText.fields_trimSpace text]
      rcases parseIntelData_noColumns parseFloat (fields_trimSpace_ne_nil hempty) with
        ⟨hsingle, hnone⟩ | ⟨hsingle, sample, hsample⟩
      · rw [hnone]
        exact iff_of_true rfl (.inl hsingle)
      · rw [hsample, or_iff_right hsingle]
        refine Iff.trans (ih rfl) ?_
        rw [hskip]

/-- **When the collector panics**: a row with a single field is read before the second header. -/
theorem collectIntelStats_eq_none_iff (gm : Gpu.GpuManager) (lines : List String) :
    collectIntelStats parseFloat gm lines = none ↔
      ∃ text ∈ headlessRows false lines, (GoText.fields text).length = 1 :=
  collectLines_eq_none_iff parseFloat rfl lines

end Collector

end IntelGpu

end Agent

end Beszel
