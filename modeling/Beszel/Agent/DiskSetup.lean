import Beszel.Agent.DiskRates
import Beszel.Common.Text

/-!
# Agent/DiskSetup — which filesystems the agent monitors

    FILESYSTEM ──▸ EXTRA_FILESYSTEMS ──▸ partitions ──▸ folders ──▸ no root: the fallback
        root            extra          root and extra     extra            root

`initializeDiskInfo` of `agent/disk.go`.  A filesystem is added under the name of its device where
that name is free.  The key it is stored under may then be another one: that of the disk the root is
found on, or the name of the folder an extra filesystem is mounted at.
-/

namespace Beszel

open Machinery

namespace Agent

namespace DiskSetup

/-! ## The host -/

/-- `disk.PartitionStat`. -/
structure PartitionStat where
  device : String
  mountpoint : String

/-- `disk.IOCountersStat`. -/
structure IOCountersStat extends Gather.DiskCounters where
  label : String

/-- The system, and `filepath.Base` and `filepath.Join` on it. -/
structure Platform where
  isWindows : Bool
  base : String → String
  join : String → String → String

/-- `filepath.Base` where the separator is a slash. -/
def unixBase (path : String) : String :=
  if path = "" then "."
  else
    let last := (path.toList.rdropWhile (· = '/')).rtakeWhile (· ≠ '/')
    if last = [] then "/" else String.ofList last

/-- A system whose separator is a slash; what is joined is the name of a file in a folder. -/
def Platform.unix : Platform where
  isWindows := false
  base := unixBase
  join folder name := folder ++ "/" ++ name

/-- **What the agent finds when it starts.**  The counters are a map that is walked in any order:
once to find the disk of the root, and once for each partition that may be the root. -/
structure Host where
  platform : Platform
  filesystem : String
  extraFilesystems : Option String
  allPartitions : List PartitionStat
  diskIoCounters : GoMap IOCountersStat
  rootWalk : List IOCountersStat
  partitionWalk : String → List IOCountersStat
  rootWalk_perm : rootWalk.Perm (diskIoCounters.entries.map (·.2))
  partitionWalk_perm : ∀ name, (partitionWalk name).Perm (diskIoCounters.entries.map (·.2))
  usage : String → Bool
  folders : Option (List (String × Bool))
  osRelease : Option String
  stat : String → Bool
  now : String → ℤ

/-! ## Names -/

/-- `parseFilesystemEntry`. -/
def parseFilesystemEntry (entry : String) : String × String :=
  let entry := GoText.trimSpace entry
  match GoText.splitTwo entry "__" with
  | some (device, customName) => (GoText.trimSpace device, GoText.trimSpace customName)
  | none => (entry, "")

/-- `isDockerSpecialMountpoint`. -/
def isDockerSpecialMountpoint (mountpoint : String) : Bool :=
  mountpoint ∈ ["/etc/hosts", "/etc/resolv.conf", "/etc/hostname"]

/-- `efPath`. -/
def efPath : String := "/extra-filesystems"

/-- `findIoDevice`: the first disk of that name or label. -/
def findIoDevice (filesystem : String) (diskIoCounters : List IOCountersStat) : Option String :=
  (diskIoCounters.find? fun d =>
    d.name = filesystem || d.label ≠ "" && d.label = filesystem).map (·.name)

namespace Host

variable (h : Host)

/-- The partitions; a backslash at the end of a device is cut off on Windows. -/
def partitions : List PartitionStat :=
  if h.platform.isWindows then
    h.allPartitions.map fun p => { p with device := GoText.trimEnd p.device "\\" }
  else h.allPartitions

/-- `getRootMountPoint`. -/
def getRootMountPoint : String :=
  if (h.osRelease.any fun content =>
      GoText.contains content "fedora" && GoText.contains content "silverblue" ||
        GoText.contains content "coreos" || GoText.contains content "flatcar" ||
        GoText.contains content "rhel-atomic" || GoText.contains content "centos-atomic") ∧
      h.stat "/sysroot" then "/sysroot"
  else if h.stat "/run/ostree" ∧ h.stat "/sysroot" then "/sysroot"
  else "/"

/-- The first partition of a filesystem that is given by its device or its mountpoint. -/
def findPartition (fs : String) : Option PartitionStat :=
  h.partitions.find? fun p => GoText.hasEnd p.device fs || p.mountpoint = fs

end Host

/-! ## The filesystems -/

/-- What is added: the arguments of `addFsStat`. -/
structure Addition where
  device : String
  mountpoint : String
  root : Bool
  customName : String

/-- The filesystems, whether the root is among them, and the keys that were written again. -/
structure Setup where
  fsStats : GoMap Gather.FsStats
  hasRoot : Bool
  overwritten : List String

/-- Nothing was added yet. -/
def Setup.empty : Setup := ⟨∅, false, []⟩

/-- An entry of `fsStats` is written. -/
def Setup.put (s : Setup) (key : String) (stats : Gather.FsStats) : Setup :=
  { s with
    fsStats := s.fsStats.insert key stats
    overwritten := if key ∈ s.fsStats then key :: s.overwritten else s.overwritten }

namespace Host

variable (h : Host)

/-- The key that is looked up before a filesystem is added. -/
def deviceKey (device : String) : String :=
  if h.platform.isWindows then device else h.platform.base device

/-- The key a filesystem is stored under. -/
def storedKey (a : Addition) : String :=
  let key := h.deviceKey a.device
  if key ∈ h.diskIoCounters then key
  else if a.root then (findIoDevice h.filesystem h.rootWalk).getD key
  else
    let efBase := h.platform.base a.mountpoint
    if efBase ∈ h.diskIoCounters then efBase else key

/-- `addFsStat`. -/
def addFsStat (s : Setup) (a : Addition) : Setup :=
  if h.deviceKey a.device ∈ s.fsStats then s
  else s.put (h.storedKey a) (.new a.root a.mountpoint a.customName)

/-- `FILESYSTEM`. -/
def addFilesystem (s : Setup) : Setup :=
  if h.filesystem ≠ "" then
    match h.findPartition h.filesystem with
    | some p => { h.addFsStat s ⟨p.device, p.mountpoint, true, ""⟩ with hasRoot := true }
    | none => s
  else s

/-- One value of `EXTRA_FILESYSTEMS`. -/
def addExtraFilesystem (s : Setup) (fsEntry : String) : Setup :=
  let (fs, customName) := parseFilesystemEntry fsEntry
  match h.findPartition fs with
  | some p => h.addFsStat s ⟨p.device, p.mountpoint, false, customName⟩
  | none =>
    if h.usage fs then h.addFsStat s ⟨h.platform.base fs, fs, false, customName⟩ else s

/-- The partition may be the root, or what docker mounts from it. -/
def mayBeRoot (p : PartitionStat) : Bool :=
  p.mountpoint = h.getRootMountPoint ||
    isDockerSpecialMountpoint p.mountpoint && GoText.hasStart p.device "/dev"

/-- One partition. -/
def addPartition (s : Setup) (p : PartitionStat) : Setup :=
  let s :=
    if !s.hasRoot && h.mayBeRoot p then
      match findIoDevice (h.platform.base p.device)
          (h.partitionWalk (h.platform.base p.device)) with
      | some fs => { h.addFsStat s ⟨fs, p.mountpoint, true, ""⟩ with hasRoot := true }
      | none => s
    else s
  if GoText.hasStart p.mountpoint efPath then
    let (device, customName) := parseFilesystemEntry p.mountpoint
    h.addFsStat s ⟨device, p.mountpoint, false, customName⟩
  else s

/-- One entry of `/extra-filesystems`. -/
def addFolder (existingMountpoints : List String) (s : Setup) (folder : String × Bool) : Setup :=
  let (name, isDir) := folder
  if isDir then
    let mountpoint := h.platform.join efPath name
    if mountpoint ∉ existingMountpoints then
      let (device, customName) := parseFilesystemEntry name
      h.addFsStat s ⟨device, mountpoint, false, customName⟩
    else s
  else s

/-- The mountpoints of the filesystems. -/
def existingMountpoints (s : Setup) : List String := s.fsStats.entries.map (·.2.mountpoint)

/-- The key of the fallback. -/
def rootKey (s : Setup) : String :=
  let rootKey := h.platform.base h.getRootMountPoint
  if rootKey ∈ s.fsStats then "root" else rootKey

/-- The fallback where no root was found. -/
def addFallback (s : Setup) : Setup :=
  if !s.hasRoot then s.put (h.rootKey s) (.new true h.getRootMountPoint "") else s

/-- `initializeDiskIoStats`. -/
def initializeDiskIoStats (s : Setup) : Setup :=
  { s with
    fsStats := mapValues (fun device stats =>
      match h.diskIoCounters.lookup device with
      | some d => Gather.DiskRates.stamped stats (h.now device) d.toDiskCounters
      | none => stats) s.fsStats }

/-- `initializeDiskInfo`. -/
def initializeDiskInfo : Setup :=
  let s := h.addFilesystem .empty
  let s := match h.extraFilesystems with
    | some extraFilesystems =>
      (GoText.split extraFilesystems ',').foldl h.addExtraFilesystem s
    | none => s
  let s := h.partitions.foldl h.addPartition s
  let s := match h.folders with
    | some folders => folders.foldl (h.addFolder (existingMountpoints s)) s
    | none => s
  h.initializeDiskIoStats (h.addFallback s)

/-! ## The additions -/

/-- An addition; the root is looked for no more once it was added. -/
def add (s : Setup) (a : Addition) : Setup :=
  { h.addFsStat s a with hasRoot := s.hasRoot || a.root }

/-- What is added for `FILESYSTEM`. -/
def filesystemAdditions : List Addition :=
  if h.filesystem ≠ "" then
    ((h.findPartition h.filesystem).map fun p => ⟨p.device, p.mountpoint, true, ""⟩).toList
  else []

/-- What is added for a value of `EXTRA_FILESYSTEMS`. -/
def extraAddition (fsEntry : String) : Option Addition :=
  let (fs, customName) := parseFilesystemEntry fsEntry
  match h.findPartition fs with
  | some p => some ⟨p.device, p.mountpoint, false, customName⟩
  | none =>
    if h.usage fs then some ⟨h.platform.base fs, fs, false, customName⟩ else none

/-- What is added for `EXTRA_FILESYSTEMS`. -/
def extraAdditions : List Addition :=
  (h.extraFilesystems.elim [] fun extra => GoText.split extra ',').filterMap h.extraAddition

/-- The root that a partition is added as. -/
def rootAddition (hasRoot : Bool) (p : PartitionStat) : Option Addition :=
  if !hasRoot && h.mayBeRoot p then
    (findIoDevice (h.platform.base p.device) (h.partitionWalk (h.platform.base p.device))).map
      fun fs => ⟨fs, p.mountpoint, true, ""⟩
  else none

/-- The extra filesystem that a partition is added as. -/
def mountAddition (p : PartitionStat) : Option Addition :=
  if GoText.hasStart p.mountpoint efPath then
    let (device, customName) := parseFilesystemEntry p.mountpoint
    some ⟨device, p.mountpoint, false, customName⟩
  else none

/-- What is added for the partitions. -/
def partitionAdditions : Bool → List PartitionStat → List Addition
  | _, [] => []
  | hasRoot, p :: ps =>
    (h.rootAddition hasRoot p).toList ++ (mountAddition p).toList ++
      partitionAdditions (hasRoot || (h.rootAddition hasRoot p).isSome) ps

/-- What is added for a folder. -/
def folderAddition (existingMountpoints : List String) (folder : String × Bool) : Option Addition :=
  let (name, isDir) := folder
  if isDir then
    let mountpoint := h.platform.join efPath name
    if mountpoint ∉ existingMountpoints then
      let (device, customName) := parseFilesystemEntry name
      some ⟨device, mountpoint, false, customName⟩
    else none
  else none

/-- What is added for the folders. -/
def folderAdditions (s : Setup) : List Addition :=
  (h.folders.getD []).filterMap (h.folderAddition (existingMountpoints s))

/-- What is added before the folders are read. -/
def mountAdditions : List Addition :=
  h.filesystemAdditions ++ h.extraAdditions ++
    h.partitionAdditions (h.filesystemAdditions.any (·.root)) h.partitions

/-- **All that is added, in order.** -/
def additions : List Addition :=
  h.mountAdditions ++ h.folderAdditions (h.mountAdditions.foldl h.add .empty)

variable {h : Host} {s : Setup} {a : Addition}

theorem hasRoot_addFsStat : (h.addFsStat s a).hasRoot = s.hasRoot := by
  unfold addFsStat
  split <;> rfl

theorem add_of_root (ha : a.root = true) :
    h.add s a = { h.addFsStat s a with hasRoot := true } := by
  rw [add, ha, Bool.or_true]

theorem add_of_not_root (ha : a.root = false) : h.add s a = h.addFsStat s a := by
  rw [add, ha, Bool.or_false, ← hasRoot_addFsStat (h := h) (s := s) (a := a)]

theorem addFilesystem_eq (s : Setup) : h.addFilesystem s = h.filesystemAdditions.foldl h.add s := by
  unfold addFilesystem filesystemAdditions
  split
  · cases h.findPartition h.filesystem with
    | none => rfl
    | some p => exact (add_of_root rfl).symm
  · rfl

theorem addExtraFilesystem_eq (s : Setup) (fsEntry : String) :
    h.addExtraFilesystem s fsEntry = (h.extraAddition fsEntry).elim s (h.add s) := by
  unfold addExtraFilesystem extraAddition
  dsimp only
  cases h.findPartition (parseFilesystemEntry fsEntry).1 with
  | some p => exact (add_of_not_root rfl).symm
  | none =>
    dsimp only
    split
    · exact (add_of_not_root rfl).symm
    · rfl

theorem addFolder_eq (existing : List String) (s : Setup) (folder : String × Bool) :
    h.addFolder existing s folder = (h.folderAddition existing folder).elim s (h.add s) := by
  unfold addFolder folderAddition
  dsimp only
  split
  · split
    · exact (add_of_not_root rfl).symm
    · rfl
  · rfl

/-- A loop that adds what there is to add. -/
theorem foldl_filterMap_add {β : Type} (f : β → Option Addition) (l : List β) (s : Setup) :
    (l.filterMap f).foldl h.add s = l.foldl (fun s b => (f b).elim s (h.add s)) s := by
  rw [List.foldl_filterMap]
  congr 1
  funext s b
  cases f b <;> rfl

theorem hasRoot_foldl_add (l : List Addition) (s : Setup) :
    (l.foldl h.add s).hasRoot = (s.hasRoot || l.any (·.root)) := by
  induction l generalizing s with
  | nil => exact (Bool.or_false _).symm
  | cons a l ih => rw [List.foldl_cons, ih, List.any_cons, ← Bool.or_assoc, add]

theorem root_of_rootAddition {hasRoot : Bool} {p : PartitionStat}
    (ha : h.rootAddition hasRoot p = some a) : a.root = true := by
  unfold rootAddition at ha
  split at ha
  · obtain ⟨fs, -, rfl⟩ := Option.map_eq_some_iff.mp ha
    rfl
  · cases ha

theorem root_of_mountAddition {p : PartitionStat} (ha : mountAddition p = some a) :
    a.root = false := by
  unfold mountAddition at ha
  split at ha
  · obtain rfl := Option.some.inj ha
    rfl
  · cases ha

theorem root_of_extraAddition {fsEntry : String} (ha : h.extraAddition fsEntry = some a) :
    a.root = false := by
  unfold extraAddition at ha
  dsimp only at ha
  cases hpartition : h.findPartition (parseFilesystemEntry fsEntry).1 with
  | some p =>
    rw [hpartition] at ha
    obtain rfl := Option.some.inj ha
    rfl
  | none =>
    rw [hpartition] at ha
    obtain ⟨-, ha⟩ := Option.ite_none_right_eq_some.mp ha
    obtain rfl := Option.some.inj ha
    rfl

theorem root_of_folderAddition {existing : List String} {folder : String × Bool}
    (ha : h.folderAddition existing folder = some a) : a.root = false := by
  unfold folderAddition at ha
  dsimp only at ha
  split at ha
  · obtain ⟨-, ha⟩ := Option.ite_none_right_eq_some.mp ha
    obtain rfl := Option.some.inj ha
    rfl
  · cases ha

theorem addPartition_eq (s : Setup) (p : PartitionStat) :
    h.addPartition s p =
      (mountAddition p).elim ((h.rootAddition s.hasRoot p).elim s (h.add s))
        (h.add ((h.rootAddition s.hasRoot p).elim s (h.add s))) := by
  have hroot : (if !s.hasRoot && h.mayBeRoot p then
        match findIoDevice (h.platform.base p.device)
            (h.partitionWalk (h.platform.base p.device)) with
        | some fs => { h.addFsStat s ⟨fs, p.mountpoint, true, ""⟩ with hasRoot := true }
        | none => s
      else s) = (h.rootAddition s.hasRoot p).elim s (h.add s) := by
    unfold rootAddition
    split
    · cases findIoDevice (h.platform.base p.device)
          (h.partitionWalk (h.platform.base p.device)) with
      | none => rfl
      | some fs => exact (add_of_root rfl).symm
    · rfl
  rw [addPartition, hroot, mountAddition]
  dsimp only
  by_cases hstart : GoText.hasStart p.mountpoint efPath = true
  · rw [if_pos hstart, if_pos hstart, Option.elim_some]
    exact (add_of_not_root rfl).symm
  · rw [if_neg hstart, if_neg hstart, Option.elim_none]

theorem foldl_addPartition (ps : List PartitionStat) (s : Setup) :
    ps.foldl h.addPartition s = (h.partitionAdditions s.hasRoot ps).foldl h.add s := by
  induction ps generalizing s with
  | nil => rfl
  | cons p ps ih =>
    have hroot : (h.addPartition s p).hasRoot =
        (s.hasRoot || (h.rootAddition s.hasRoot p).isSome) := by
      rw [addPartition_eq]
      cases hr : h.rootAddition s.hasRoot p with
      | none =>
        cases hm : mountAddition p with
        | none => exact (Bool.or_false _).symm
        | some b => exact congrArg (s.hasRoot || ·) (root_of_mountAddition hm)
      | some a =>
        have hadd : (h.add s a).hasRoot = true := by rw [add, root_of_rootAddition hr, Bool.or_true]
        cases hm : mountAddition p with
        | none => exact hadd.trans (Bool.or_true _).symm
        | some b =>
          refine Eq.trans ?_ (Bool.or_true _).symm
          exact congrArg (· || b.root) hadd
    rw [List.foldl_cons, ih, hroot, partitionAdditions, List.foldl_append, List.foldl_append,
      addPartition_eq]
    cases h.rootAddition s.hasRoot p <;> cases mountAddition p <;> rfl

/-- **The filesystems are those that were added, with the fallback.** -/
theorem initializeDiskInfo_eq (h : Host) :
    h.initializeDiskInfo =
      h.initializeDiskIoStats (h.addFallback (h.additions.foldl h.add .empty)) := by
  have hextra : ∀ s, (match h.extraFilesystems with
      | some extraFilesystems =>
        (GoText.split extraFilesystems ',').foldl h.addExtraFilesystem s
      | none => s) = h.extraAdditions.foldl h.add s := by
    intro s
    unfold extraAdditions
    cases h.extraFilesystems with
    | none => rfl
    | some extra =>
      rw [Option.elim_some, foldl_filterMap_add]
      dsimp only
      rw [funext fun s => funext (addExtraFilesystem_eq (h := h) s)]
  have hfolders : ∀ s, (match h.folders with
      | some folders => folders.foldl (h.addFolder (existingMountpoints s)) s
      | none => s) = (h.folderAdditions s).foldl h.add s := by
    intro s
    unfold folderAdditions
    cases h.folders with
    | none => rfl
    | some folders =>
      rw [Option.getD_some, foldl_filterMap_add]
      dsimp only
      rw [funext fun t => funext (addFolder_eq (h := h) (existingMountpoints s) t)]
  have hmounts : h.partitions.foldl h.addPartition
      (h.extraAdditions.foldl h.add (h.addFilesystem .empty)) =
        h.mountAdditions.foldl h.add .empty := by
    have hroot : (h.extraAdditions.foldl h.add (h.filesystemAdditions.foldl h.add .empty)).hasRoot =
        h.filesystemAdditions.any (·.root) := by
      have hnone : h.extraAdditions.any (·.root) = false := by
        refine List.any_eq_false.mpr fun a ha => ?_
        obtain ⟨fsEntry, -, ha⟩ := List.mem_filterMap.mp ha
        rw [root_of_extraAddition ha]
        exact Bool.false_ne_true
      rw [hasRoot_foldl_add, hasRoot_foldl_add, hnone, Bool.or_false]
      rfl
    rw [addFilesystem_eq, foldl_addPartition, hroot, mountAdditions, List.foldl_append,
      List.foldl_append]
  rw [initializeDiskInfo, hextra, hmounts, hfolders, additions, List.foldl_append]

/-! ## The root -/

/-- At most one root is added. -/
theorem countP_partitionAdditions (ps : List PartitionStat) :
    (h.partitionAdditions true ps).countP (·.root) = 0 ∧
      (h.partitionAdditions false ps).countP (·.root) ≤ 1 := by
  induction ps with
  | nil => exact ⟨rfl, Nat.zero_le 1⟩
  | cons p ps ih =>
    have hmount : (mountAddition p).toList.countP (·.root) = 0 := by
      refine List.countP_eq_zero.mpr fun a ha => ?_
      rw [root_of_mountAddition (Option.mem_toList.mp ha)]
      exact Bool.false_ne_true
    constructor
    · rw [partitionAdditions, List.countP_append, List.countP_append, hmount, Bool.true_or, ih.1]
      rfl
    · rw [partitionAdditions, List.countP_append, List.countP_append, hmount]
      cases h.rootAddition false p with
      | none => simpa using ih.2
      | some a =>
        rw [Option.isSome_some, Bool.or_true, ih.1]
        exact List.countP_le_length

theorem countP_additions (h : Host) :
    h.additions.countP (·.root) = if h.additions.any (·.root) then 1 else 0 := by
  have hle : h.additions.countP (·.root) ≤ 1 := by
    have hextra : h.extraAdditions.countP (·.root) = 0 := by
      refine List.countP_eq_zero.mpr fun a ha => ?_
      obtain ⟨fsEntry, -, ha⟩ := List.mem_filterMap.mp ha
      rw [root_of_extraAddition ha]
      exact Bool.false_ne_true
    have hfolder : ∀ s, (h.folderAdditions s).countP (·.root) = 0 := by
      intro s
      refine List.countP_eq_zero.mpr fun a ha => ?_
      obtain ⟨folder, -, ha⟩ := List.mem_filterMap.mp ha
      rw [root_of_folderAddition ha]
      exact Bool.false_ne_true
    have hfilesystem : h.filesystemAdditions.length ≤ 1 := by
      unfold filesystemAdditions
      split
      · cases h.findPartition h.filesystem <;> simp
      · exact Nat.zero_le 1
    rw [additions, mountAdditions, List.countP_append, List.countP_append, List.countP_append,
      hextra, hfolder]
    cases hany : h.filesystemAdditions.any (·.root) with
    | true =>
      have hone := List.countP_le_length (l := h.filesystemAdditions) (p := (·.root))
      have hnone := (countP_partitionAdditions (h := h) h.partitions).1
      omega
    | false =>
      have hzero : h.filesystemAdditions.countP (·.root) = 0 :=
        List.countP_eq_zero.mpr fun a ha => List.any_eq_false.mp hany a ha
      have hone := (countP_partitionAdditions (h := h) h.partitions).2
      omega
  split
  · rename_i hany
    have hpos : 0 < h.additions.countP (·.root) :=
      List.countP_pos_iff.mpr (List.any_eq_true.mp hany)
    omega
  · rename_i hany
    exact List.countP_eq_zero.mpr fun a ha hroot => hany (List.any_eq_true.mpr ⟨a, ha, hroot⟩)

end Host

/-- How many roots there are. -/
def Setup.roots (s : Setup) : ℕ := s.fsStats.entries.countP (·.2.root)

/-- **One root**: exactly one entry is the root, and none was written over another. -/
structure Setup.OneRoot (s : Setup) : Prop where
  root : s.roots = 1
  kept : s.overwritten = []

theorem Setup.overwritten_put {s : Setup} {key : String} (stats : Gather.FsStats) :
    (s.put key stats).overwritten = [] ↔ s.overwritten = [] ∧ key ∉ s.fsStats := by
  unfold put
  dsimp only
  split
  · rename_i hmem
    exact ⟨fun h => absurd h (List.cons_ne_nil _ _), fun h => absurd hmem h.2⟩
  · rename_i hfree
    exact ⟨fun h => ⟨h, hfree⟩, fun h => h.1⟩

/-- An entry under a key that is free is one more. -/
theorem Setup.roots_put {s : Setup} {key : String} {stats : Gather.FsStats}
    (hfree : key ∉ s.fsStats) :
    (s.put key stats).roots = s.roots + if stats.root then 1 else 0 := by
  unfold roots put
  dsimp only
  rw [AList.entries_insert_of_notMem hfree, List.countP_cons]

namespace Host

variable {h : Host} {s : Setup} {a : Addition}

/-- The filesystems one after the other. -/
def step (h : Host) (s : Setup) (a : Addition) : Option Setup := some (h.add s a)

/-- **An addition has its place**: where the key of its device is free, so is the key it is stored
under, and the root finds the key of its device free. -/
structure Free (h : Host) (s : Setup) (a : Addition) : Prop where
  stored : h.deviceKey a.device ∉ s.fsStats → h.storedKey a ∉ s.fsStats
  root : a.root = true → h.deviceKey a.device ∉ s.fsStats

instance (h : Host) (s : Setup) (a : Addition) : Decidable (h.Free s a) :=
  decidable_of_iff (_ ∧ _) ⟨fun h => ⟨h.1, h.2⟩, fun h => ⟨h.1, h.2⟩⟩

/-- **All that is added has its place**, and so has the fallback where no root is added. -/
structure Distinct (h : Host) : Prop where
  additions : Along h.step h.Free .empty h.additions
  fallback : ∀ s ∈ run h.step .empty h.additions, s.hasRoot = false → h.rootKey s ∉ s.fsStats

/-- **An addition either has its place or spoils the outcome.** -/
theorem add_cases (h : Host) (s : Setup) (a : Addition) :
    ((h.add s a).overwritten = [] → s.overwritten = [] ∧
        (h.add s a).roots ≤ s.roots + if a.root then 1 else 0) ∧
      ((h.add s a).overwritten = [] ∧ (h.add s a).roots = s.roots + (if a.root then 1 else 0) ↔
        s.overwritten = [] ∧ h.Free s a) := by
  by_cases hdevice : h.deviceKey a.device ∈ s.fsStats
  · have hadd : h.addFsStat s a = s := if_pos hdevice
    have hsame : (h.add s a).overwritten = s.overwritten ∧ (h.add s a).roots = s.roots := by
      rw [add, hadd]
      exact ⟨rfl, rfl⟩
    rw [hsame.1, hsame.2]
    refine ⟨fun hkept => ⟨hkept, Nat.le_add_right _ _⟩, ?_, ?_⟩
    · rintro ⟨hkept, hroots⟩
      refine ⟨hkept, fun hfree => absurd hdevice hfree, fun hroot => ?_⟩
      rw [hroot, if_pos rfl] at hroots
      omega
    · rintro ⟨hkept, hfree⟩
      refine ⟨hkept, ?_⟩
      rw [if_neg fun hroot => hfree.root hroot hdevice, Nat.add_zero]
  · have hadd : h.addFsStat s a = s.put (h.storedKey a) (.new a.root a.mountpoint a.customName) :=
      if_neg hdevice
    have hkept : (h.add s a).overwritten = [] ↔ s.overwritten = [] ∧ h.storedKey a ∉ s.fsStats := by
      rw [add, hadd]
      exact Setup.overwritten_put (.new a.root a.mountpoint a.customName)
    have hroots : h.storedKey a ∉ s.fsStats →
        (h.add s a).roots = s.roots + if a.root then 1 else 0 := by
      intro hfree
      rw [add, hadd]
      exact Setup.roots_put hfree
    rw [hkept]
    refine ⟨fun hkept => ⟨hkept.1, (hroots hkept.2).le⟩, ?_, ?_⟩
    · rintro ⟨hkept, -⟩
      exact ⟨hkept.1, fun _ => hkept.2, fun _ => hdevice⟩
    · rintro ⟨hkept, hfree⟩
      exact ⟨⟨hkept, hfree.stored hdevice⟩, hroots (hfree.stored hdevice)⟩

/-- **The additions all have their places where none is overwritten and each root counts.** -/
theorem foldl_add_cases (l : List Addition) (s : Setup) :
    ((l.foldl h.add s).overwritten = [] → s.overwritten = [] ∧
        (l.foldl h.add s).roots ≤ s.roots + l.countP (·.root)) ∧
      ((l.foldl h.add s).overwritten = [] ∧
          (l.foldl h.add s).roots = s.roots + l.countP (·.root) ↔
        s.overwritten = [] ∧ Along h.step h.Free s l) := by
  induction l generalizing s with
  | nil => simp
  | cons a l ih =>
    obtain ⟨hle, hiff⟩ := add_cases h s a
    obtain ⟨hle', hiff'⟩ := ih (h.add s a)
    rw [List.foldl_cons, List.countP_cons, along_cons]
    have hnext : (∀ s' ∈ h.step s a, Along h.step h.Free s' l) ↔
        Along h.step h.Free (h.add s a) l := by
      simp [step]
    rw [hnext]
    constructor
    · intro hkept
      obtain ⟨hkept', hroots'⟩ := hle' hkept
      obtain ⟨hkept'', hroots''⟩ := hle hkept'
      exact ⟨hkept'', by omega⟩
    · constructor
      · rintro ⟨hkept, hroots⟩
        obtain ⟨hkept', hroots'⟩ := hle' hkept
        obtain ⟨-, hroots''⟩ := hle hkept'
        -- both bounds are reached
        obtain ⟨-, halong⟩ := hiff'.mp ⟨hkept, by omega⟩
        obtain ⟨hkept'', hfree⟩ := hiff.mp ⟨hkept', by omega⟩
        exact ⟨hkept'', hfree, halong⟩
      · rintro ⟨hkept, hfree, halong⟩
        obtain ⟨hkept', hroots'⟩ := hiff.mpr ⟨hkept, hfree⟩
        obtain ⟨hkept'', hroots''⟩ := hiff'.mpr ⟨hkept', halong⟩
        exact ⟨hkept'', by omega⟩

/-- What the disks had counted changes no root. -/
theorem oneRoot_initializeDiskIoStats (s : Setup) :
    (h.initializeDiskIoStats s).OneRoot ↔ s.OneRoot := by
  have hroots : (h.initializeDiskIoStats s).roots = s.roots := by
    unfold Setup.roots initializeDiskIoStats mapValues
    dsimp only
    rw [List.countP_map]
    refine List.countP_congr fun e _ => ?_
    dsimp only [Function.comp, Sigma.map]
    cases h.diskIoCounters.lookup e.1 <;> rfl
  exact ⟨fun hone => ⟨hroots ▸ hone.root, hone.kept⟩, fun hone => ⟨hroots ▸ hone.root, hone.kept⟩⟩

/-- **There is exactly one root and nothing is overwritten, if and only if all that is added has its
place.** -/
theorem oneRoot_iff (h : Host) : h.initializeDiskInfo.OneRoot ↔ h.Distinct := by
  obtain ⟨hle, hiff⟩ := foldl_add_cases (h := h) h.additions .empty
  have hrun : run h.step .empty h.additions = some (h.additions.foldl h.add .empty) :=
    run_some h.add .empty h.additions
  have hdistinct : h.Distinct ↔ Along h.step h.Free .empty h.additions ∧
      ((h.additions.foldl h.add .empty).hasRoot = false →
        h.rootKey (h.additions.foldl h.add .empty) ∉
          (h.additions.foldl h.add .empty).fsStats) := by
    constructor
    · exact fun hd => ⟨hd.additions, hd.fallback _ hrun⟩
    · rintro ⟨halong, hfallback⟩
      refine ⟨halong, fun s hs => ?_⟩
      obtain rfl := Option.some.inj (hrun.symm.trans hs)
      exact hfallback
  have hempty : Setup.empty.overwritten = [] ∧ Setup.empty.roots = 0 := ⟨rfl, rfl⟩
  rw [initializeDiskInfo_eq, oneRoot_initializeDiskIoStats, hdistinct]
  rw [hempty.2, countP_additions] at hle hiff
  have hroot := hasRoot_foldl_add (h := h) h.additions .empty
  rw [show Setup.empty.hasRoot = false from rfl, Bool.false_or] at hroot
  rw [← hroot] at hle hiff
  generalize h.additions.foldl h.add .empty = t at *
  unfold addFallback
  cases hhas : t.hasRoot with
  | true =>
    rw [hhas] at hiff
    constructor
    · intro hone
      exact ⟨(hiff.mp ⟨hone.kept, hone.root⟩).2, fun hfalse => nomatch hfalse⟩
    · rintro ⟨halong, -⟩
      obtain ⟨hkept, hroots⟩ := hiff.mpr ⟨hempty.1, halong⟩
      exact ⟨hroots, hkept⟩
  | false =>
    rw [hhas] at hle hiff
    rw [Bool.not_false, if_pos rfl]
    constructor
    · intro hone
      obtain ⟨hkept, hfree⟩ := (Setup.overwritten_put _).mp hone.kept
      refine ⟨(hiff.mp ⟨hkept, ?_⟩).2, fun _ => hfree⟩
      exact Nat.le_zero.mp (hle hkept).2
    · rintro ⟨halong, hfree⟩
      obtain ⟨hkept, hroots⟩ := hiff.mpr ⟨hempty.1, halong⟩
      refine ⟨?_, (Setup.overwritten_put _).mpr ⟨hkept, hfree rfl⟩⟩
      rw [Setup.roots_put (hfree rfl), hroots]
      rfl

/-! ### The root as an extra filesystem -/

/-- A host with one disk, whose partition is the root and is asked for as an extra filesystem. -/
def rootAsExtra : Host where
  platform := .unix
  filesystem := ""
  extraFilesystems := some "sda1"
  allPartitions := [⟨"/dev/sda1", "/"⟩]
  diskIoCounters := AList.singleton "sda1" ⟨⟨"sda1", 0, 0⟩, ""⟩
  rootWalk := [⟨⟨"sda1", 0, 0⟩, ""⟩]
  partitionWalk _ := [⟨⟨"sda1", 0, 0⟩, ""⟩]
  rootWalk_perm := .refl _
  partitionWalk_perm _ := .refl _
  usage _ := true
  folders := none
  osRelease := none
  stat _ := false
  now _ := 0

/-- **A root that is asked for as an extra filesystem is no root.** -/
theorem not_oneRoot : ¬ ∀ h : Host, h.initializeDiskInfo.OneRoot := by
  intro hall
  have hroots : rootAsExtra.initializeDiskInfo.roots = 0 := by decide +kernel
  exact absurd (hroots.symm.trans (hall rootAsExtra).root) (by decide)

end Host

end DiskSetup

end Agent

end Beszel
