import Beszel.Common.Text
import Beszel.Machinery.Table

/-!
# Agent/SmartDevices — the devices of a scan, merged with the known and the configured ones

    scanned ──verified metadata of the existing──▸ entries ──configured on top──▸ devices

`mergeDeviceLists` of `agent/smart.go`.  The drives of a RAID controller share a name and differ in
their type, so devices are found by name and type; where that fails a device of the only one of its
name is taken.  Types are copied from verified devices and from the configuration: the result of
this module, `mergeDeviceLists_iff`, says for which lists that makes no two drives the same.
-/

namespace Beszel

open Machinery

namespace Agent

namespace Smart

/-! ## The merge -/

/-- `DeviceInfo`. -/
structure DeviceInfo where
  name : String
  type : String
  infoName : String
  protocol : String
  typeVerified : Bool
  parserType : String
  deriving DecidableEq

/-- `deviceKey`. -/
structure DeviceKey where
  name : String
  deviceType : String
  deriving DecidableEq

/-- `makeDeviceKey`, of a device. -/
def DeviceInfo.key (d : DeviceInfo) : DeviceKey := ⟨d.name, d.type⟩

/-- `normalizeParserType`. -/
def normalizeParserType (value : String) : String :=
  let value := GoText.toLower (GoText.trimSpace value)
  if value ∈ ["nvme", "sntasmedia", "sntrealtek"] then "nvme"
  else if value ∈ ["sat", "ata"] then "sat"
  else if value = "scsi" then "scsi"
  else value

/-- `buildUniqueNameIndex`: the device of a name that appears exactly once. -/
def buildUniqueNameIndex (devices : List DeviceInfo) (name : String) : Option DeviceInfo :=
  if name = "" then none
  else
    match devices.filter (·.name = name) with
    | [dev] => some dev
    | _ => none

/-- The map of devices by name and type: the last one of a key is found. -/
def index (devices : List DeviceInfo) (key : DeviceKey) : Option DeviceInfo :=
  devices.reverse.find? (·.key = key)

/-- `preserveVerifiedType`. -/
def preserveVerifiedType (target prev : DeviceInfo) : DeviceInfo :=
  if prev.typeVerified then
    { target with type := prev.type, typeVerified := true, parserType := prev.parserType }
  else target

/-- The type of a device that is not verified yet is the configured one. -/
def applyConfiguredType (existingDev configuredDev : DeviceInfo) : DeviceInfo :=
  if configuredDev.type ≠ "" ∧ ¬ existingDev.typeVerified then
    let newType := GoText.trimSpace configuredDev.type
    { existingDev with
      type := newType
      typeVerified := false
      parserType := normalizeParserType newType }
  else existingDev

/-- `applyConfiguredMetadata`. -/
def applyConfiguredMetadata (existingDev configuredDev : DeviceInfo) : DeviceInfo :=
  let dev := applyConfiguredType existingDev configuredDev
  { dev with
    infoName := if configuredDev.infoName ≠ "" then configuredDev.infoName else dev.infoName
    protocol := if configuredDev.protocol ≠ "" then configuredDev.protocol else dev.protocol }

/-- The existing device that a device is matched with: by name and type, else the only one of the
name. -/
def previous (existing : List DeviceInfo) (d : DeviceInfo) : Option DeviceInfo :=
  (index existing d.key).or (buildUniqueNameIndex existing d.name)

/-- An entry of the merged list: the device, the key it has in `deviceIndex`, and the device of the
scan or of the configuration that it is a copy of. -/
structure Entry where
  source : DeviceInfo
  isScanned : Bool
  key : DeviceKey
  device : DeviceInfo
  deriving DecidableEq

/-- The copy of a device, with the verified metadata of the device it is matched with. -/
def entered (existing : List DeviceInfo) (d : DeviceInfo) : DeviceInfo :=
  match previous existing d with
  | some prev => preserveVerifiedType d prev
  | none => d

/-- The entry of a scanned device. -/
def scannedEntry (existing : List DeviceInfo) (d : DeviceInfo) : Entry :=
  ⟨d, true, (entered existing d).key, entered existing d⟩

/-- The entry of a configured device that is not matched with another entry. -/
def configuredEntry (existing : List DeviceInfo) (d : DeviceInfo) : Entry :=
  let copyDev := entered existing d
  let copyDev :=
    if (previous existing d).isNone ∧ d.type ≠ "" then
      { copyDev with parserType := normalizeParserType d.type }
    else copyDev
  ⟨d, false, copyDev.key, copyDev⟩

/-- A configured device is applied to an entry. -/
def Entry.apply (e : Entry) (configuredDevice : DeviceInfo) : Entry :=
  { e with device := applyConfiguredMetadata e.device configuredDevice }

@[simp] theorem Entry.apply_source (e : Entry) (c : DeviceInfo) :
    (e.apply c).source = e.source := rfl

@[simp] theorem Entry.apply_isScanned (e : Entry) (c : DeviceInfo) :
    (e.apply c).isScanned = e.isScanned := rfl

@[simp] theorem Entry.apply_key (e : Entry) (c : DeviceInfo) : (e.apply c).key = e.key := rfl

section Merge

variable (existing scanned configured : List DeviceInfo)

/-- The scanned devices that have a name. -/
def named : List DeviceInfo := scanned.filter (·.name ≠ "")

/-- `deviceIndexByName`, whether it has the name. -/
def uniqueName (name : String) : Bool :=
  (buildUniqueNameIndex ((named scanned).map (entered existing)) name).isSome

/-- **A configured device is merged.**  The entries are in reverse order here, so that the first one
of a key is the one `deviceIndex` has. -/
def configure (entries : List Entry) (c : DeviceInfo) : List Entry :=
  if c.name = "" then entries
  else if entries.any (·.key = c.key) then
    Table.updateFirst (·.key = c.key) (·.apply c) entries
  else if uniqueName existing scanned c.name then
    Table.updateFirst (fun e => e.isScanned ∧ e.device.name = c.name) (·.apply c) entries
  else configuredEntry existing c :: entries

/-- The entries of the merged list, the last one first. -/
def mergeEntries : List Entry :=
  configured.foldl (configure existing scanned)
    ((named scanned).map (scannedEntry existing)).reverse

/-- **`mergeDeviceLists`.** -/
def mergeDeviceLists : List DeviceInfo :=
  if scanned = [] ∧ configured = [] then existing
  else (mergeEntries existing scanned configured).reverse.map (·.device)

end Merge

/-! ## What happens to an entry -/

theorem preserveVerifiedType_name (target prev : DeviceInfo) :
    (preserveVerifiedType target prev).name = target.name := by
  unfold preserveVerifiedType
  split <;> rfl

theorem entered_name (existing : List DeviceInfo) (d : DeviceInfo) :
    (entered existing d).name = d.name := by
  unfold entered
  split
  · exact preserveVerifiedType_name d _
  · rfl

/-- A device that is matched with a verified one takes its type and its parser. -/
theorem entered_of_verified {existing : List DeviceInfo} {d prev : DeviceInfo}
    (hprev : previous existing d = some prev) (hv : prev.typeVerified) :
    entered existing d =
      { d with type := prev.type, typeVerified := true, parserType := prev.parserType } := by
  rw [entered, hprev]
  exact if_pos hv

/-- A device that is not matched with a verified one is copied as it is. -/
theorem entered_of_unverified {existing : List DeviceInfo} {d : DeviceInfo}
    (h : ∀ prev ∈ previous existing d, ¬ prev.typeVerified) : entered existing d = d := by
  unfold entered
  split
  · rename_i prev hprev
    exact if_neg (h prev hprev)
  · rfl

theorem configuredEntry_key (existing : List DeviceInfo) (c : DeviceInfo) :
    (configuredEntry existing c).key = (entered existing c).key := by
  unfold configuredEntry
  dsimp only
  split
  · rw [DeviceInfo.key, DeviceInfo.key]
  · rw [DeviceInfo.key]

/-- A configured device has the parser of its type only where nothing is known of it. -/
theorem configuredEntry_of_previous {existing : List DeviceInfo} {c prev : DeviceInfo}
    (hprev : previous existing c = some prev) :
    (configuredEntry existing c).device = entered existing c := by
  unfold configuredEntry
  dsimp only
  rw [if_neg]
  simp [hprev]

theorem configuredEntry_name (existing : List DeviceInfo) (c : DeviceInfo) :
    (configuredEntry existing c).device.name = c.name := by
  have hname := entered_name existing c
  unfold configuredEntry
  dsimp only
  split <;> exact hname

/-- The configuration leaves verified metadata alone. -/
theorem apply_of_verified {d : DeviceInfo} (c : DeviceInfo) (hv : d.typeVerified) :
    (applyConfiguredMetadata d c).type = d.type ∧
      (applyConfiguredMetadata d c).parserType = d.parserType := by
  have hsame : applyConfiguredType d c = d := if_neg fun h => h.2 hv
  unfold applyConfiguredMetadata
  rw [hsame]
  exact ⟨rfl, rfl⟩

theorem apply_name (d c : DeviceInfo) : (applyConfiguredMetadata d c).name = d.name := by
  have hname : (applyConfiguredType d c).name = d.name := by
    unfold applyConfiguredType
    split <;> rfl
  exact hname

theorem apply_typeVerified (d c : DeviceInfo) :
    (applyConfiguredMetadata d c).typeVerified = d.typeVerified := by
  have hv : (applyConfiguredType d c).typeVerified = d.typeVerified := by
    unfold applyConfiguredType
    split
    case isTrue h => exact (Bool.eq_false_iff.mpr h.2).symm
    case isFalse => rfl
  exact hv

/-- The configuration sets the type of what is not verified. -/
theorem apply_type_of_unverified {d c : DeviceInfo} (hv : d.typeVerified = false)
    (hc : c.type ≠ "") : (applyConfiguredMetadata d c).type = GoText.trimSpace c.type := by
  have htype : applyConfiguredType d c = _ := if_pos ⟨hc, by simp [hv]⟩
  exact congrArg DeviceInfo.type htype

theorem apply_type_of_untyped {d c : DeviceInfo} (hc : c.type = "") :
    (applyConfiguredMetadata d c).type = d.type := by
  have htype : (applyConfiguredType d c).type = d.type :=
    congrArg DeviceInfo.type (if_neg fun h => h.1 hc)
  exact htype

section Merge

variable {existing scanned configured : List DeviceInfo}

/-- **What merging a configured device does**: nothing, an entry is updated, or one is added. -/
inductive Configured (existing scanned : List DeviceInfo) (entries : List Entry) (c : DeviceInfo) :
    List Entry → Prop
  | unnamed (name : c.name = "") : Configured existing scanned entries c entries
  | byKey {newer older : List Entry} {e : Entry} (name : c.name ≠ "")
    (split : entries = newer ++ e :: older) (key : e.key = c.key)
    (first : ∀ e' ∈ newer, e'.key ≠ c.key) :
    Configured existing scanned entries c (newer ++ e.apply c :: older)
  | byName {newer older : List Entry} {e : Entry} (name : c.name ≠ "")
    (split : entries = newer ++ e :: older) (none : ∀ e' ∈ entries, e'.key ≠ c.key)
    (unique : uniqueName existing scanned c.name) (isScanned : e.isScanned)
    (same : e.device.name = c.name) :
    Configured existing scanned entries c (newer ++ e.apply c :: older)
  | added (name : c.name ≠ "") (none : ∀ e' ∈ entries, e'.key ≠ c.key)
    (shared : uniqueName existing scanned c.name = false) :
    Configured existing scanned entries c (configuredEntry existing c :: entries)

/-- The entry that a name alone finds is there. -/
def HasUnique (existing scanned : List DeviceInfo) (entries : List Entry) : Prop :=
  ∀ name, uniqueName existing scanned name →
    ∃ e ∈ entries, e.isScanned ∧ e.device.name = name

theorem configured_configure {entries : List Entry} (hunique : HasUnique existing scanned entries)
    (c : DeviceInfo) :
    Configured existing scanned entries c (configure existing scanned entries c) := by
  unfold configure
  split_ifs with hname hkey hby
  · exact .unnamed hname
  · obtain ⟨newer, e, older, hsplit, hkey, hfirst, hupdate⟩ :=
      Table.exists_updateFirst (p := fun e : Entry => e.key = c.key) (·.apply c)
        (by simpa using hkey)
    rw [hupdate]
    exact .byKey hname hsplit hkey hfirst
  · have hnone : ∀ e' ∈ entries, e'.key ≠ c.key := by simpa using hkey
    obtain ⟨newer, e, older, hsplit, ⟨hscan, hsame⟩, -, hupdate⟩ :=
      Table.exists_updateFirst (p := fun e : Entry => e.isScanned ∧ e.device.name = c.name)
        (·.apply c) (hunique c.name hby)
    rw [hupdate]
    exact .byName hname hsplit hnone hby hscan hsame
  · have hnone : ∀ e' ∈ entries, e'.key ≠ c.key := by simpa using hkey
    exact .added hname hnone (by simpa using hby)

/-! ## What holds of the entries -/

/-- **What holds of an entry**: it has the name of what it is a copy of, and the metadata of the
verified device that was matched with it. -/
structure Sound (existing : List DeviceInfo) (e : Entry) : Prop where
  named : e.source.name ≠ ""
  name : e.device.name = e.source.name
  key : e.key = (entered existing e.source).key
  flag : e.device.typeVerified = (entered existing e.source).typeVerified
  verified : ∀ prev ∈ previous existing e.source, prev.typeVerified →
    e.device.type = prev.type ∧ e.device.parserType = prev.parserType

theorem sound_scannedEntry (existing : List DeviceInfo) {d : DeviceInfo} (hname : d.name ≠ "") :
    Sound existing (scannedEntry existing d) where
  named := hname
  name := entered_name existing d
  key := rfl
  flag := rfl
  verified prev hprev hv := by
    have hdevice : (scannedEntry existing d).device = _ := entered_of_verified hprev hv
    rw [hdevice]
    exact ⟨rfl, rfl⟩

theorem sound_configuredEntry (existing : List DeviceInfo) {c : DeviceInfo} (hname : c.name ≠ "") :
    Sound existing (configuredEntry existing c) where
  named := hname
  name := configuredEntry_name existing c
  key := configuredEntry_key existing c
  flag := by
    unfold configuredEntry
    dsimp only
    split <;> rfl
  verified prev hprev hv := by
    have hdevice : (configuredEntry existing c).device = _ :=
      (configuredEntry_of_previous hprev).trans (entered_of_verified hprev hv)
    rw [hdevice]
    exact ⟨rfl, rfl⟩

/-- An entry has the name of its key. -/
theorem Sound.key_name {e : Entry} (h : Sound existing e) : e.key.name = e.device.name := by
  rw [h.key, h.name]
  exact entered_name existing e.source

theorem Sound.apply {e : Entry} (h : Sound existing e) (c : DeviceInfo) :
    Sound existing (e.apply c) where
  named := h.named
  name := (apply_name e.device c).trans h.name
  key := h.key
  flag := (apply_typeVerified e.device c).trans h.flag
  verified prev hprev hv := by
    have hflag : e.device.typeVerified := by
      rw [h.flag, entered_of_verified (d := e.source) hprev hv]
    obtain ⟨htype, hparser⟩ := h.verified prev hprev hv
    obtain ⟨htype', hparser'⟩ := apply_of_verified c hflag
    exact ⟨htype'.trans htype, hparser'.trans hparser⟩

/-- **A name that nothing is found by**: several scanned devices have it, and there is no verified
device that is the only existing one of the name. -/
def Shared (existing scanned : List DeviceInfo) (name : String) : Prop :=
  uniqueName existing scanned name = false ∧
    ∀ prev ∈ buildUniqueNameIndex existing name, ¬ prev.typeVerified

/-- **A type that the configuration sets again**, without the white space around it: a configured
device has the name and type, and the last scanned device that has them is not verified. -/
def Retyped (existing scanned configured : List DeviceInfo) (d : DeviceInfo) : Prop :=
  d.type ≠ "" ∧ (∃ c ∈ configured, c.key = d.key) ∧
    (∀ s ∈ index scanned d.key, ¬ s.typeVerified) ∧
    ∀ prev ∈ index existing d.key, ¬ prev.typeVerified

theorem key_of_index {devices : List DeviceInfo} {key : DeviceKey} {d : DeviceInfo}
    (h : index devices key = some d) : d.key = key := by
  simpa using List.find?_some h

/-- The only device of a name is the one that a device of the name is matched with. -/
theorem previous_of_unique {d prev : DeviceInfo}
    (h : buildUniqueNameIndex existing d.name = some prev) : previous existing d = some prev := by
  rw [previous, h]
  cases hindex : index existing d.key with
  | none => rfl
  | some prev' =>
    have hname : prev'.name = d.name := congrArg DeviceKey.name (key_of_index hindex)
    have hmem : prev' ∈ existing := List.mem_reverse.mp (List.mem_of_find?_eq_some hindex)
    unfold buildUniqueNameIndex at h
    split_ifs at h
    split at h
    case h_1 dev hfilter =>
      cases h
      have hsingle : prev' ∈ existing.filter (·.name = d.name) :=
        List.mem_filter.mpr ⟨hmem, by simpa using hname⟩
      rw [hfilter] at hsingle
      rw [List.mem_singleton.mp hsingle]
      rfl
    case h_2 => cases h

/-- Under a shared name a device keeps its type. -/
theorem Shared.entered_key {d : DeviceInfo} (h : Shared existing scanned d.name) :
    (entered existing d).key = d.key := by
  cases hindex : index existing d.key with
  | some prev =>
    have hprev : previous existing d = some prev := by rw [previous, hindex, Option.some_or]
    by_cases hv : prev.typeVerified
    · rw [entered_of_verified hprev hv]
      have htype : prev.type = d.type := congrArg DeviceKey.deviceType (key_of_index hindex)
      rw [DeviceInfo.key, DeviceInfo.key, htype]
    · rw [entered_of_unverified]
      rintro prev' hprev'
      cases hprev.symm.trans hprev'
      exact hv
  | none =>
    rw [entered_of_unverified]
    intro prev hprev
    rw [previous, hindex, Option.none_or] at hprev
    exact h.2 prev hprev

/-- **What holds of the list of entries** while the configured devices are merged. -/
structure Merged (existing scanned configured : List DeviceInfo) (entries : List Entry) :
    Prop where
  sound : ∀ e ∈ entries, Sound existing e
  own : (entries.filter (·.isScanned)).map (·.source) = (named scanned).reverse
  typed : ∀ e ∈ entries, e.isScanned → Shared existing scanned e.source.name →
    e.device.type = e.source.type ∨ Retyped existing scanned configured e.source ∧
      e.device.type = GoText.trimSpace e.source.type

variable {entries : List Entry}

theorem merged_scanned : Merged existing scanned configured
    ((named scanned).map (scannedEntry existing)).reverse where
  sound e he := by
    obtain ⟨d, hd, rfl⟩ := List.mem_map.mp (List.mem_reverse.mp he)
    exact sound_scannedEntry existing (by simpa using (List.mem_filter.mp hd).2)
  own := by
    rw [List.filter_reverse, List.map_reverse, List.filter_eq_self.mpr, List.map_map]
    · exact congrArg List.reverse (List.map_id _)
    · intro e he
      obtain ⟨d, -, rfl⟩ := List.mem_map.mp he
      rfl
  typed e he _ hshared := by
    obtain ⟨d, -, rfl⟩ := List.mem_map.mp (List.mem_reverse.mp he)
    exact .inl (congrArg DeviceKey.deviceType hshared.entered_key)

/-- Every scanned device has an entry. -/
theorem Merged.exists_entry (h : Merged existing scanned configured entries) {d : DeviceInfo}
    (hd : d ∈ scanned) (hname : d.name ≠ "") : ∃ e ∈ entries, e.isScanned ∧ e.source = d := by
  have hmem : d ∈ (named scanned).reverse := by simp [named, hd, hname]
  rw [← h.own] at hmem
  obtain ⟨e, he, rfl⟩ := List.mem_map.mp hmem
  exact ⟨e, (List.mem_filter.mp he).1, (List.mem_filter.mp he).2, rfl⟩

theorem Merged.hasUnique (h : Merged existing scanned configured entries) :
    HasUnique existing scanned entries := by
  intro name hunique
  obtain ⟨dev, hdev⟩ := Option.isSome_iff_exists.mp hunique
  unfold buildUniqueNameIndex at hdev
  split_ifs at hdev with hname
  split at hdev
  case h_1 dev' hfilter =>
    obtain ⟨hmem, hdevname⟩ := List.mem_filter.mp
      (hfilter.symm ▸ List.mem_singleton_self dev' : dev' ∈ List.filter _ _)
    obtain ⟨d, hd, rfl⟩ := List.mem_map.mp hmem
    rw [entered_name] at hdevname
    obtain ⟨hscan, hdname⟩ := List.mem_filter.mp hd
    obtain ⟨e, he, hescan, rfl⟩ := h.exists_entry hscan (by simpa using hdname)
    exact ⟨e, he, hescan, (h.sound e he).name.trans (by simpa using hdevname)⟩
  case h_2 => cases hdev

/-- The entry that `deviceIndex` has for a shared name is a copy of the last scanned device of its
name and type. -/
theorem Merged.index_source {newer older : List Entry} {e : Entry}
    (h : Merged existing scanned configured (newer ++ e :: older)) (hscan : e.isScanned)
    (hshared : Shared existing scanned e.source.name)
    (hfirst : ∀ e' ∈ newer, e'.key ≠ e.source.key) :
    index scanned e.source.key = some e.source := by
  have hsource : e.source ∈ (named scanned).reverse := by
    rw [← h.own]
    exact List.mem_map.mpr ⟨e, List.mem_filter.mpr ⟨by simp, hscan⟩, rfl⟩
  have hname : e.source.name ≠ "" := by
    simpa using (List.mem_filter.mp (List.mem_reverse.mp hsource)).2
  -- no newer scanned entry is a copy of a device with this name and type
  have hnewer :
      ((newer.filter (·.isScanned)).map (·.source)).find? (·.key = e.source.key) = none := by
    rw [List.find?_eq_none]
    intro d hd
    obtain ⟨e', he', rfl⟩ := List.mem_map.mp hd
    have hmem : e' ∈ newer := (List.mem_filter.mp he').1
    simp only [decide_eq_true_eq]
    intro hkey
    have hname' : e'.source.name = e.source.name := congrArg DeviceKey.name hkey
    refine hfirst e' hmem ?_
    rw [(h.sound e' (by simp [hmem])).key, Shared.entered_key (hname' ▸ hshared), hkey]
  have hnamed : (named scanned).reverse.find? (·.key = e.source.key) =
      scanned.reverse.find? (·.key = e.source.key) := by
    rw [named, ← List.filter_reverse, List.find?_filter]
    congr 1
    funext d
    rw [Bool.eq_iff_iff]
    simp only [decide_eq_true_eq, and_iff_right_iff_imp]
    intro hkey
    have hd : d.name = e.source.name := congrArg DeviceKey.name hkey
    rw [hd]
    exact hname
  rw [index, ← hnamed, ← h.own, List.filter_append, List.map_append, List.find?_append, hnewer,
    Option.none_or, List.filter_cons_of_pos hscan, List.map_cons, List.find?_cons_of_pos (by simp)]

/-- An entry that is updated under a shared name, by the index, keeps its type or is retyped. -/
theorem Merged.typed_apply {newer older : List Entry} {e : Entry} {c : DeviceInfo}
    (h : Merged existing scanned configured (newer ++ e :: older)) (hc : c ∈ configured)
    (hkey : e.key = c.key) (hfirst : ∀ e' ∈ newer, e'.key ≠ c.key) (hscan : e.isScanned)
    (hshared : Shared existing scanned e.source.name) :
    (e.apply c).device.type = e.source.type ∨ Retyped existing scanned configured e.source ∧
      (e.apply c).device.type = GoText.trimSpace e.source.type := by
  have he := h.sound e (by simp)
  have hsource : e.source.key = c.key := by rw [← hshared.entered_key, ← he.key, hkey]
  have htype : e.source.type = c.type := congrArg DeviceKey.deviceType hsource
  by_cases hv : e.device.typeVerified
  · have hsame : (e.apply c).device.type = e.device.type := (apply_of_verified c hv).1
    rw [hsame]
    exact h.typed e (by simp) hscan hshared
  by_cases hempty : c.type = ""
  · have hsame : (e.apply c).device.type = e.device.type := apply_type_of_untyped hempty
    rw [hsame]
    exact h.typed e (by simp) hscan hshared
  have hnew : (e.apply c).device.type = GoText.trimSpace c.type :=
    apply_type_of_unverified (Bool.eq_false_iff.mpr hv) hempty
  rw [hnew, htype]
  rw [he.flag] at hv
  have hprev : ∀ prev ∈ previous existing e.source, ¬ prev.typeVerified := fun prev hprev hpv =>
    hv (by rw [entered_of_verified hprev hpv])
  rw [entered_of_unverified hprev] at hv
  refine .inr ⟨⟨htype ▸ hempty, ⟨c, hc, hsource.symm⟩, fun s hs => ?_, fun prev hindex => ?_⟩, rfl⟩
  · rw [h.index_source hscan hshared (hsource ▸ hfirst)] at hs
    cases hs
    exact hv
  · refine hprev prev ?_
    rw [previous, Option.mem_def.mp hindex, Option.some_or, Option.mem_def]

theorem Merged.update {newer older : List Entry} {e : Entry} {c : DeviceInfo}
    (h : Merged existing scanned configured (newer ++ e :: older))
    (htyped : e.isScanned → Shared existing scanned e.source.name →
      (e.apply c).device.type = e.source.type ∨ Retyped existing scanned configured e.source ∧
        (e.apply c).device.type = GoText.trimSpace e.source.type) :
    Merged existing scanned configured (newer ++ e.apply c :: older) where
  sound e' he' := by
    obtain he' | rfl | he' : e' ∈ newer ∨ e' = e.apply c ∨ e' ∈ older := by simpa using he'
    · exact h.sound e' (by simp [he'])
    · exact (h.sound e (by simp)).apply c
    · exact h.sound e' (by simp [he'])
  own := by
    rw [← h.own, List.filter_append, List.filter_append, List.filter_cons, List.filter_cons]
    cases hscan : e.isScanned <;> simp [hscan]
  typed e' he' := by
    obtain he' | rfl | he' : e' ∈ newer ∨ e' = e.apply c ∨ e' ∈ older := by simpa using he'
    · exact h.typed e' (by simp [he'])
    · exact htyped
    · exact h.typed e' (by simp [he'])

/-- **Merging a configured device keeps what holds of the entries.** -/
theorem Merged.configure (h : Merged existing scanned configured entries) {c : DeviceInfo}
    (hc : c ∈ configured) :
    Merged existing scanned configured (Smart.configure existing scanned entries c) := by
  have hcases := configured_configure h.hasUnique c
  generalize Smart.configure existing scanned entries c = entries' at hcases
  cases hcases with
  | unnamed => exact h
  | byKey _ hsplit hkey hfirst =>
    subst hsplit
    exact h.update fun hscan hshared => h.typed_apply hc hkey hfirst hscan hshared
  | @byName newer older e _ hsplit _ hunique _ hsame =>
    subst hsplit
    refine h.update fun _ hshared => ?_
    rw [← (h.sound e (by simp)).name, hsame] at hshared
    exact absurd hunique (by simp [hshared.1])
  | added hname =>
    refine ⟨fun e he => ?_, ?_, fun e he hscan => ?_⟩
    · obtain rfl | he := List.mem_cons.mp he
      · exact sound_configuredEntry existing hname
      · exact h.sound e he
    · rw [List.filter_cons_of_neg (by simp [configuredEntry])]
      exact h.own
    · obtain rfl | he := List.mem_cons.mp he
      · exact absurd hscan (by simp [configuredEntry])
      · exact h.typed e he hscan

/-- The configured devices, or the first of them, are merged. -/
theorem Merged.foldl (h : Merged existing scanned configured entries) {cs : List DeviceInfo}
    (hcs : cs ⊆ configured) :
    Merged existing scanned configured (cs.foldl (Smart.configure existing scanned) entries) :=
  List.foldlRecOn cs _ h fun _ h _ hc => h.configure (hcs hc)

theorem merged_mergeEntries :
    Merged existing scanned configured (mergeEntries existing scanned configured) :=
  merged_scanned.foldl (List.Subset.refl configured)

/-! ## An entry that is retyped -/

/-- What `deviceIndex` has for a key: an entry of a scanned device that is not verified. -/
structure Tracked (key : DeviceKey) (entries : List Entry) (e : Entry) : Prop where
  found : entries.find? (·.key = key) = some e
  isScanned : e.isScanned
  source : e.source.key = key
  unverified : e.device.typeVerified = false

/-- An update of an entry of another key is not seen. -/
theorem find?_apply_of_ne {newer older : List Entry} {e : Entry} {key : DeviceKey}
    (hkey : e.key ≠ key) (c : DeviceInfo) :
    (newer ++ e.apply c :: older).find? (·.key = key) =
      (newer ++ e :: older).find? (·.key = key) := by
  have hold : decide (e.key = key) = false := by simpa using hkey
  have hnew : decide ((e.apply c).key = key) = false := hold
  rw [List.find?_append, List.find?_append, List.find?_cons, List.find?_cons, hold, hnew]

theorem Tracked.of_find?_eq {key : DeviceKey} {entries' : List Entry} {e : Entry}
    (h : Tracked key entries e)
    (hfind : entries'.find? (·.key = key) = entries.find? (·.key = key)) :
    Tracked key entries' e :=
  ⟨hfind.trans h.found, h.isScanned, h.source, h.unverified⟩

/-- The entry that is updated by its key is the one that is tracked. -/
theorem Tracked.apply {newer older : List Entry} {e e' : Entry} {c : DeviceInfo}
    (h : Tracked c.key (newer ++ e' :: older) e) (hkey : e'.key = c.key)
    (hfirst : ∀ e'' ∈ newer, e''.key ≠ c.key) :
    e' = e ∧ Tracked c.key (newer ++ e'.apply c :: older) (e'.apply c) := by
  have hfind : ∀ {e₁ : Entry}, e₁.key = c.key →
      (newer ++ e₁ :: older).find? (·.key = c.key) = some e₁ := by
    intro e₁ hkey₁
    rw [List.find?_append, List.find?_eq_none.mpr (by simpa using hfirst), Option.none_or,
      List.find?_cons_of_pos (by simpa using hkey₁)]
  obtain rfl : e' = e := Option.some.inj ((hfind hkey).symm.trans h.found)
  exact ⟨rfl, hfind hkey, h.isScanned, h.source,
    (apply_typeVerified e'.device c).trans h.unverified⟩

/-- **A configured device retypes the entry of its key and no other.** -/
theorem Tracked.configure {key : DeviceKey} {e : Entry}
    (hm : Merged existing scanned configured entries) (h : Tracked key entries e)
    (hname : key.name ≠ "") (htype : key.deviceType ≠ "")
    (hshared : Shared existing scanned key.name) (c : DeviceInfo) :
    ∃ e', Tracked key (Smart.configure existing scanned entries c) e' ∧
      (c.key = key → e'.device.type = GoText.trimSpace key.deviceType) ∧
      (c.key ≠ key → e' = e) := by
  have hmem := List.mem_of_find?_eq_some h.found
  have hekey : e.key = key := by simpa using List.find?_some h.found
  have hcases := configured_configure hm.hasUnique c
  generalize Smart.configure existing scanned entries c = entries' at hcases
  cases hcases with
  | unnamed hcname =>
    refine ⟨e, h, fun hc => ?_, fun _ => rfl⟩
    rw [← hc] at hname
    exact absurd hcname hname
  | @byKey newer older e' _ hsplit hkey hfirst =>
    subst hsplit
    by_cases hc : c.key = key
    · subst hc
      obtain ⟨rfl, happly⟩ := h.apply hkey hfirst
      exact ⟨e'.apply c, happly, fun _ => apply_type_of_unverified h.unverified htype,
        fun hne => absurd rfl hne⟩
    · exact ⟨e, h.of_find?_eq (find?_apply_of_ne (hkey ▸ hc) c), fun hc' => absurd hc' hc,
        fun _ => rfl⟩
  | @byName newer older e' _ hsplit hnone hunique _ hsame =>
    have hc : c.key ≠ key := fun hc => hnone e hmem (hekey.trans hc.symm)
    subst hsplit
    refine ⟨e, h.of_find?_eq (find?_apply_of_ne ?_ c), fun hc' => absurd hc' hc, fun _ => rfl⟩
    rintro rfl
    rw [(hm.sound e' (by simp)).key_name, hsame] at hshared
    exact absurd hunique (by simp [hshared.1])
  | added _ hnone _ =>
    have hc : c.key ≠ key := fun hc => hnone e hmem (hekey.trans hc.symm)
    refine ⟨e, h.of_find?_eq (List.find?_cons_of_neg ?_), fun hc' => absurd hc' hc, fun _ => rfl⟩
    simp only [decide_eq_true_eq]
    intro hnew
    rw [configuredEntry_key] at hnew
    have hcname : c.name = key.name := by
      rw [← hnew]
      exact (entered_name existing c).symm
    rw [Shared.entered_key (hcname ▸ hshared)] at hnew
    exact hc hnew

theorem Tracked.foldl {key : DeviceKey} (hname : key.name ≠ "") (htype : key.deviceType ≠ "")
    (hshared : Shared existing scanned key.name) (cs : List DeviceInfo)
    (hcs : cs ⊆ configured) {entries : List Entry} {e : Entry}
    (hm : Merged existing scanned configured entries) (h : Tracked key entries e) :
    ∃ e', Tracked key (cs.foldl (Smart.configure existing scanned) entries) e' ∧
      ((∃ c ∈ cs, c.key = key) → e'.device.type = GoText.trimSpace key.deviceType) ∧
      ((∀ c ∈ cs, c.key ≠ key) → e' = e) := by
  induction cs generalizing entries e with
  | nil => exact ⟨e, h, fun ⟨_, hc, _⟩ => absurd hc (by simp), fun _ => rfl⟩
  | cons c cs ih =>
    obtain ⟨e₁, h₁, hhit, hmiss⟩ := h.configure hm hname htype hshared c
    have hcs' : cs ⊆ configured := fun c' hc' => hcs (List.mem_cons_of_mem _ hc')
    obtain ⟨e', h', hhit', hmiss'⟩ := ih hcs' (hm.configure (hcs List.mem_cons_self)) h₁
    refine ⟨e', h', fun ⟨c', hc', hkey⟩ => ?_, fun hnone => ?_⟩
    · by_cases hlater : ∃ c' ∈ cs, c'.key = key
      · exact hhit' hlater
      · obtain rfl | hc' := List.mem_cons.mp hc'
        · rw [hmiss' fun c' hc' hkey' => hlater ⟨c', hc', hkey'⟩]
          exact hhit hkey
        · exact absurd ⟨c', hc', hkey⟩ hlater
    · rw [hmiss' fun c' hc' => hnone c' (List.mem_cons_of_mem _ hc')]
      exact hmiss (hnone c List.mem_cons_self)

/-- **The entry of a retyped device has the type without the white space around it.** -/
theorem Retyped.exists_entry {d : DeviceInfo} (h : Retyped existing scanned configured d)
    (hd : d ∈ scanned) (hname : d.name ≠ "") (hshared : Shared existing scanned d.name) :
    ∃ e ∈ mergeEntries existing scanned configured, e.isScanned ∧ e.source.key = d.key ∧
      e.device.type = GoText.trimSpace d.type := by
  have hm : Merged existing scanned configured _ := merged_scanned
  obtain ⟨e₀, he₀, -, hsource⟩ := hm.exists_entry hd hname
  have hkey₀ : e₀.key = d.key := by
    rw [(hm.sound e₀ he₀).key, hsource, hshared.entered_key]
  -- the index has an entry for the key, the one of the last scanned device
  obtain ⟨e, he⟩ : ∃ e, ((named scanned).map (scannedEntry existing)).reverse.find?
      (·.key = d.key) = some e :=
    Option.isSome_iff_exists.mp (List.find?_isSome.mpr ⟨e₀, he₀, by simpa using hkey₀⟩)
  have hmem := List.mem_of_find?_eq_some he
  obtain ⟨d', -, rfl⟩ := List.mem_map.mp (List.mem_reverse.mp hmem)
  have hkey : (scannedEntry existing d').key = d.key := by simpa using List.find?_some he
  have hname' : d'.name = d.name := by
    exact (entered_name existing d').symm.trans (congrArg DeviceKey.name hkey)
  have hshared' : Shared existing scanned d'.name := hname' ▸ hshared
  have hdkey : d'.key = d.key := hshared'.entered_key.symm.trans hkey
  obtain ⟨newer, older, hsplit, hnewer⟩ : ∃ newer older,
      ((named scanned).map (scannedEntry existing)).reverse =
        newer ++ scannedEntry existing d' :: older ∧ ∀ e' ∈ newer, e'.key ≠ d'.key := by
    obtain ⟨-, newer, older, hsplit, hnewer⟩ := List.find?_eq_some_iff_append.mp he
    exact ⟨newer, older, hsplit, fun e' he' => by simpa [hdkey] using hnewer e' he'⟩
  have hlast : index scanned d'.key = some d' := by
    rw [hsplit] at hm
    exact hm.index_source rfl hshared' hnewer
  have hprev : ∀ prev ∈ previous existing d', ¬ prev.typeVerified := by
    intro prev hprev
    rw [previous, Option.mem_def, Option.or_eq_some_iff] at hprev
    obtain hindex | ⟨-, hunique⟩ := hprev
    · exact h.2.2.2 prev (hdkey ▸ hindex)
    · exact hshared'.2 prev hunique
  have htracked : Tracked d.key ((named scanned).map (scannedEntry existing)).reverse
      (scannedEntry existing d') := by
    refine ⟨he, rfl, hdkey, ?_⟩
    have hflag := h.2.2.1 d' (hdkey ▸ hlast)
    have hentered : (scannedEntry existing d').device = d' := entered_of_unverified hprev
    rw [hentered]
    exact Bool.eq_false_iff.mpr hflag
  obtain ⟨e', h', hhit, -⟩ :=
    Tracked.foldl hname h.1 hshared configured (List.Subset.refl configured) hm htracked
  exact ⟨e', List.mem_of_find?_eq_some h'.found, h'.isScanned, h'.source, hhit h.2.1⟩

/-! ## Configured devices are represented -/

/-- Merging a configured device leaves every name in the list, and puts its own there. -/
theorem Merged.names_configure (h : Merged existing scanned configured entries) (c : DeviceInfo) :
    (∀ e ∈ entries, ∃ e' ∈ Smart.configure existing scanned entries c,
      e'.device.name = e.device.name) ∧
      (c.name ≠ "" →
        ∃ e' ∈ Smart.configure existing scanned entries c, e'.device.name = c.name) := by
  have hupdate : ∀ {newer older : List Entry} {e : Entry}, ∀ e₀ ∈ newer ++ e :: older,
      ∃ e' ∈ newer ++ e.apply c :: older, e'.device.name = e₀.device.name := by
    intro newer older e e₀ he₀
    obtain he₀ | rfl | he₀ : e₀ ∈ newer ∨ e₀ = e ∨ e₀ ∈ older := by simpa using he₀
    · exact ⟨e₀, by simp [he₀], rfl⟩
    · exact ⟨e₀.apply c, by simp, apply_name e₀.device c⟩
    · exact ⟨e₀, by simp [he₀], rfl⟩
  have hcases := configured_configure h.hasUnique c
  generalize Smart.configure existing scanned entries c = entries' at hcases ⊢
  cases hcases with
  | unnamed hname => exact ⟨fun e he => ⟨e, he, rfl⟩, fun hne => absurd hname hne⟩
  | @byKey newer older e _ hsplit hkey _ =>
    have hname : e.device.name = c.name := by
      rw [← (h.sound e (by simp [hsplit])).key_name, hkey]
      rfl
    exact ⟨hsplit ▸ hupdate, fun _ => ⟨e.apply c, by simp, (apply_name e.device c).trans hname⟩⟩
  | @byName newer older e _ hsplit _ _ _ hsame =>
    exact ⟨hsplit ▸ hupdate, fun _ => ⟨e.apply c, by simp, (apply_name e.device c).trans hsame⟩⟩
  | added =>
    refine ⟨fun e he => ⟨e, List.mem_cons_of_mem _ he, rfl⟩, fun _ => ?_⟩
    exact ⟨_, List.mem_cons_self, configuredEntry_name existing c⟩

/-- **Every configured device that has a name is represented.** -/
theorem exists_entry_of_configured (existing scanned : List DeviceInfo) {c : DeviceInfo}
    (hc : c ∈ configured) (hname : c.name ≠ "") :
    ∃ e ∈ mergeEntries existing scanned configured, e.device.name = c.name := by
  obtain ⟨before, after, rfl⟩ := List.append_of_mem hc
  have hbefore : Merged existing scanned (before ++ c :: after) _ :=
    merged_scanned.foldl (List.subset_append_left before (c :: after))
  rw [mergeEntries, List.foldl_append, List.foldl_cons]
  -- its own merge puts the name there, and those after it leave it there
  have hafter := List.foldlRecOn after (Smart.configure existing scanned)
    (motive := fun entries => Merged existing scanned (before ++ c :: after) entries ∧
      ∃ e ∈ entries, e.device.name = c.name)
    ⟨hbefore.configure hc, (hbefore.names_configure c).2 hname⟩ fun entries h c' hc' => by
      obtain ⟨hm, e, he, hen⟩ := h
      obtain ⟨e', he', hen'⟩ := (hm.names_configure c').1 e he
      exact ⟨hm.configure (by simp [hc']), e', he', hen'.trans hen⟩
  exact hafter.2

/-! ## Distinct devices stay distinct -/

/-- **The merge keeps distinct devices distinct**: every scanned device that has a name has an entry
of its own with that name, entries of scanned devices that differ in name or type do so too, a
device that is matched by name and type with a verified one keeps the verified type and parser, and
every configured device is represented. -/
structure KeepsDistinct (existing scanned configured : List DeviceInfo) : Prop where
  own : ((mergeEntries existing scanned configured).reverse.filter (·.isScanned)).map (·.source) =
    named scanned
  name : ∀ e ∈ mergeEntries existing scanned configured, e.device.name = e.source.name
  distinct : ∀ e ∈ mergeEntries existing scanned configured,
    ∀ e' ∈ mergeEntries existing scanned configured, e.isScanned → e'.isScanned →
      e.source.key ≠ e'.source.key → e.device.key ≠ e'.device.key
  verified : ∀ e ∈ mergeEntries existing scanned configured,
    ∀ prev ∈ index existing e.source.key, prev.typeVerified →
      e.device.type = prev.type ∧ e.device.parserType = prev.parserType
  represented : ∀ c ∈ configured, ∃ d ∈ mergeDeviceLists existing scanned configured,
    d.name = c.name

instance (existing scanned configured : List DeviceInfo) :
    DecidablePred (Retyped existing scanned configured) := fun d =>
  inferInstanceAs <| Decidable <| d.type ≠ "" ∧ (∃ c ∈ configured, c.key = d.key) ∧
    (∀ s ∈ index scanned d.key, ¬ s.typeVerified) ∧
    ∀ prev ∈ index existing d.key, ¬ prev.typeVerified

/-- The type of a scanned device after the configured types are set. -/
def configuredType (existing scanned configured : List DeviceInfo) (d : DeviceInfo) : String :=
  if Retyped existing scanned configured d then GoText.trimSpace d.type else d.type

/-- **The lists are not ambiguous**: configured devices have names, and where scanned devices share
a name no verified device is the only existing one of that name, and the types differ when the
configured ones are set. -/
structure Unambiguous (existing scanned configured : List DeviceInfo) : Prop where
  named : ∀ c ∈ configured, c.name ≠ ""
  distinct : ∀ d ∈ scanned, ∀ d' ∈ scanned, d.name ≠ "" → d.name = d'.name → d.type ≠ d'.type →
    (∀ prev ∈ buildUniqueNameIndex existing d.name, ¬ prev.typeVerified) ∧
      configuredType existing scanned configured d ≠ configuredType existing scanned configured d'

/-- Two types under one name: it is not found by the name. -/
theorem uniqueName_eq_false {d d' : DeviceInfo} (hd : d ∈ scanned) (hd' : d' ∈ scanned)
    (hname : d.name ≠ "") (hsame : d.name = d'.name) (htype : d.type ≠ d'.type) :
    uniqueName existing scanned d.name = false := by
  rw [uniqueName, Option.isSome_eq_false_iff, Option.isNone_iff_eq_none, buildUniqueNameIndex,
    if_neg hname]
  split
  case h_2 => rfl
  case h_1 dev hfilter =>
    rw [List.filter_map, List.map_eq_singleton_iff] at hfilter
    obtain ⟨x, hx, -⟩ := hfilter
    have hmem : ∀ y ∈ scanned, y.name = d.name → y = x := by
      intro y hy hyname
      refine List.mem_singleton.mp (hx ▸ List.mem_filter.mpr ⟨?_, ?_⟩)
      · exact List.mem_filter.mpr ⟨hy, by simpa [hyname] using hname⟩
      · simpa [entered_name] using hyname
    refine absurd ?_ htype
    rw [hmem d hd rfl, hmem d' hd' hsame.symm]

/-- **The final type of an entry under a shared name.** -/
theorem device_type_of_shared {e : Entry} (he : e ∈ mergeEntries existing scanned configured)
    (hscan : e.isScanned) (hshared : Shared existing scanned e.source.name) :
    e.device.type = e.source.type ∨
      e.device.type = configuredType existing scanned configured e.source := by
  obtain h | ⟨hretyped, h⟩ := merged_mergeEntries.typed e he hscan hshared
  · exact .inl h
  · refine .inr (h.trans ?_)
    rw [configuredType, if_pos hretyped]

/-- Some entry of a scanned device has its configured type. -/
theorem exists_entry_of_shared (configured : List DeviceInfo) {d : DeviceInfo} (hd : d ∈ scanned)
    (hname : d.name ≠ "")
    (hshared : Shared existing scanned d.name) :
    ∃ e ∈ mergeEntries existing scanned configured, e.isScanned ∧ e.source.key = d.key ∧
      e.device.type = configuredType existing scanned configured d := by
  by_cases hretyped : Retyped existing scanned configured d
  · rw [configuredType, if_pos hretyped]
    exact hretyped.exists_entry hd hname hshared
  · obtain ⟨e, he, hscan, rfl⟩ := merged_mergeEntries.exists_entry hd hname
    refine ⟨e, he, hscan, rfl, ?_⟩
    obtain h | ⟨h, -⟩ := merged_mergeEntries.typed e he hscan hshared
    · rw [h, configuredType, if_neg hretyped]
    · exact absurd h hretyped

theorem configuredType_eq_or (existing scanned configured : List DeviceInfo) (d : DeviceInfo) :
    configuredType existing scanned configured d = d.type ∨
      configuredType existing scanned configured d = GoText.trimSpace d.type := by
  unfold configuredType
  split
  · exact .inr rfl
  · exact .inl rfl

/-- A type that is the configured type of another device is its own configured type. -/
theorem configuredType_eq_of_eq {d d' : DeviceInfo}
    (h : d.type ≠ d'.type) (heq : d.type = configuredType existing scanned configured d') :
    configuredType existing scanned configured d = d.type := by
  have htrim : GoText.trimSpace d.type = d.type := by
    obtain h' | h' := configuredType_eq_or existing scanned configured d'
    · exact absurd (heq.trans h') h
    · rw [heq, h', GoText.trimSpace_trimSpace]
  obtain h' | h' := configuredType_eq_or existing scanned configured d
  · exact h'
  · exact h'.trans htrim

theorem mergeDeviceLists_of_configured {c : DeviceInfo} (hc : c ∈ configured) :
    mergeDeviceLists existing scanned configured =
      (mergeEntries existing scanned configured).reverse.map (·.device) :=
  if_neg fun h => List.ne_nil_of_mem hc h.2

theorem Unambiguous.distinct_entries (h : Unambiguous existing scanned configured) {e e' : Entry}
    (he : e ∈ mergeEntries existing scanned configured)
    (he' : e' ∈ mergeEntries existing scanned configured) (hscan : e.isScanned)
    (hscan' : e'.isScanned) (hne : e.source.key ≠ e'.source.key) :
    e.device.key ≠ e'.device.key := by
  intro heq
  have hm : Merged existing scanned configured _ := merged_mergeEntries
  have hsource : ∀ {e : Entry}, e ∈ mergeEntries existing scanned configured → e.isScanned →
      e.source ∈ scanned := by
    intro e he hscan
    have hmem : e.source ∈ (Smart.named scanned).reverse := by
      rw [← hm.own]
      exact List.mem_map.mpr ⟨e, List.mem_filter.mpr ⟨he, hscan⟩, rfl⟩
    exact (List.mem_filter.mp (List.mem_reverse.mp hmem)).1
  have hname : e.source.name = e'.source.name := by
    rw [← (hm.sound e he).name, ← (hm.sound e' he').name]
    exact congrArg DeviceKey.name heq
  have htype : e.device.type = e'.device.type := congrArg DeviceKey.deviceType heq
  have hne' : e.source.type ≠ e'.source.type := fun h => hne (by rw [DeviceInfo.key, hname, h]; rfl)
  have hd := hsource he hscan
  have hd' := hsource he' hscan'
  have hnamed := (hm.sound e he).named
  obtain ⟨hprev, hdistinct⟩ := h.distinct _ hd _ hd' hnamed hname hne'
  have hshared : Shared existing scanned e.source.name :=
    ⟨uniqueName_eq_false hd hd' hnamed hname hne', hprev⟩
  obtain h₁ | h₁ := device_type_of_shared he hscan hshared <;>
    obtain h₂ | h₂ := device_type_of_shared he' hscan' (hname ▸ hshared) <;>
    rw [h₁, h₂] at htype
  · exact hne' htype
  · exact hdistinct ((configuredType_eq_of_eq hne' htype).trans htype)
  · exact hdistinct (htype.trans (configuredType_eq_of_eq hne'.symm htype.symm).symm)
  · exact hdistinct htype

/-- The entries of scanned devices that differ show that the lists are not ambiguous. -/
theorem KeepsDistinct.unambiguous (h : KeepsDistinct existing scanned configured) :
    Unambiguous existing scanned configured where
  named c hc hname := by
    obtain ⟨d, hd, hdname⟩ := h.represented c hc
    rw [mergeDeviceLists_of_configured hc] at hd
    obtain ⟨e, he, rfl⟩ := List.mem_map.mp hd
    have hs := merged_mergeEntries.sound e (List.mem_reverse.mp he)
    exact hs.named (hs.name.symm.trans (hdname.trans hname))
  distinct d hd d' hd' hname hsame htype := by
    have hne : d.key ≠ d'.key := fun hkey => htype (congrArg DeviceKey.deviceType hkey)
    have hm : Merged existing scanned configured _ := merged_mergeEntries
    have hprev : ∀ prev ∈ buildUniqueNameIndex existing d.name, ¬ prev.typeVerified := by
      intro prev hunique hv
      -- every scanned device of the name takes the type of the only existing one
      have htypes : ∀ {x : DeviceInfo}, x ∈ scanned → x.name = d.name →
          ∃ e ∈ mergeEntries existing scanned configured, e.isScanned ∧ e.source = x ∧
            e.device.type = prev.type := by
        intro x hx hxname
        obtain ⟨e, he, hscan, rfl⟩ := hm.exists_entry hx (hxname ▸ hname)
        refine ⟨e, he, hscan, rfl, ((hm.sound e he).verified prev ?_ hv).1⟩
        exact previous_of_unique (hxname ▸ hunique)
      obtain ⟨e, he, hscan, rfl, hetype⟩ := htypes hd rfl
      obtain ⟨e', he', hscan', rfl, hetype'⟩ := htypes hd' hsame.symm
      refine h.distinct e he e' he' hscan hscan' hne ?_
      rw [DeviceInfo.key, DeviceInfo.key, (hm.sound e he).name, (hm.sound e' he').name, hsame,
        hetype, hetype']
    refine ⟨hprev, fun heq => ?_⟩
    have hshared : Shared existing scanned d.name :=
      ⟨uniqueName_eq_false hd hd' hname hsame htype, hprev⟩
    obtain ⟨e, he, hscan, hkey, hetype⟩ := exists_entry_of_shared configured hd hname hshared
    obtain ⟨e', he', hscan', hkey', hetype'⟩ := exists_entry_of_shared configured hd'
      (hsame ▸ hname) (hsame ▸ hshared)
    refine h.distinct e he e' he' hscan hscan' (hkey ▸ hkey' ▸ hne) ?_
    have hn : e.source.name = d.name := congrArg DeviceKey.name hkey
    have hn' : e'.source.name = d'.name := congrArg DeviceKey.name hkey'
    rw [DeviceInfo.key, DeviceInfo.key, (hm.sound e he).name, (hm.sound e' he').name, hn, hn',
      hsame, hetype, hetype', heq]

/-- **The merge keeps distinct devices distinct exactly for lists that are not ambiguous.** -/
theorem mergeDeviceLists_iff (existing scanned configured : List DeviceInfo) :
    KeepsDistinct existing scanned configured ↔ Unambiguous existing scanned configured := by
  refine ⟨KeepsDistinct.unambiguous, fun h => ?_⟩
  have hm : Merged existing scanned configured _ := merged_mergeEntries
  refine ⟨?_, fun e he => (hm.sound e he).name, fun e he e' he' => h.distinct_entries he he',
    fun e he prev hprev hv => (hm.sound e he).verified prev ?_ hv, fun c hc => ?_⟩
  · rw [List.filter_reverse, List.map_reverse, hm.own, List.reverse_reverse]
  · rw [previous, Option.mem_def.mp hprev, Option.some_or, Option.mem_def]
  · obtain ⟨e, he, hname⟩ := exists_entry_of_configured existing scanned hc (h.named c hc)
    rw [mergeDeviceLists_of_configured hc]
    exact ⟨e.device, List.mem_map.mpr ⟨e, List.mem_reverse.mpr he, rfl⟩, hname⟩

end Merge

/-- A second drive of a RAID controller is scanned, and takes the type of the first one. -/
theorem mergeDeviceLists_collapses : ¬ ∀ existing scanned configured : List DeviceInfo,
    KeepsDistinct existing scanned configured := by
  intro h
  let first : DeviceInfo := ⟨"/dev/sda", "megaraid,0", "", "", false, ""⟩
  let second : DeviceInfo := ⟨"/dev/sda", "megaraid,1", "", "", false, ""⟩
  let known : DeviceInfo := { first with typeVerified := true, parserType := "sat" }
  exact (h [known] [first, second] []).distinct
    ⟨first, true, known.key, known⟩ (by decide +kernel)
    ⟨second, true, known.key, known⟩ (by decide +kernel) rfl rfl (by decide) rfl

end Smart

end Agent

end Beszel
