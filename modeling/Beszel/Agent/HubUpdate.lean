import Beszel.Machinery.Run
import Beszel.Machinery.Sha256
import Mathlib.Logic.Function.Basic
import Mathlib.Order.Nat

/-!
# Agent/HubUpdate — the agent replaces itself by the binary of the hub

    download ──▸ .update ──hash, compare──▸ chmod ──▸ rename over the executable
                    ╰────────────────────────────────▸ removed at the end

`selfUpdateFromHub` of `agent/hubupdate.go`, with any number of requests at a time: a step is one
operation of one request.  All of them use the one path `.update`.  Files are numbered, so that a
request that has a file open goes on writing to it, or reading it, whatever its name is by then;
each counts its changes.
-/

namespace Beszel

open Machinery

namespace HubUpdate

/-! ## Files -/

/-- A file, and how often it was emptied or written to. -/
structure File where
  data : List UInt8
  changes : ℕ
  deriving DecidableEq, Repr

/-- **The executable and the temporary path**, among files with numbers below `next`. -/
structure Disk where
  files : ℕ → File
  next : ℕ
  exe : ℕ
  tmp : Option ℕ
  exe_lt : exe < next
  tmp_lt : ∀ f ∈ tmp, f < next ∧ f ≠ exe

namespace Disk

variable (d : Disk)

/-- The contents of the executable. -/
def binary : List UInt8 := (d.files d.exe).data

/-- A file gets other contents. -/
def change (f : ℕ) (data : List UInt8) : Disk :=
  { d with files := Function.update d.files f ⟨data, (d.files f).changes + 1⟩ }

/-- A new file at the temporary path. -/
def create : Disk where
  files := Function.update d.files d.next ⟨[], 0⟩
  next := d.next + 1
  exe := d.exe
  tmp := some d.next
  exe_lt := Nat.lt_succ_of_lt d.exe_lt
  tmp_lt := by
    rintro f ⟨⟩
    exact ⟨Nat.lt_succ_self _, (Nat.ne_of_lt d.exe_lt).symm⟩

/-- `os.OpenFile` of the temporary path, to write to it from its beginning. -/
def openTmp : Disk × ℕ :=
  match d.tmp with
  | some f => (d.change f [], f)
  | none => (d.create, d.next)

/-- Some bytes are written at an offset. -/
def write (f offset : ℕ) (chunk : List UInt8) : Disk :=
  let data := (d.files f).data
  d.change f (data.take offset ++ List.replicate (offset - data.length) 0 ++ chunk ++
    data.drop (offset + chunk.length))

/-- `os.Remove` of the temporary path. -/
def removeTmp : Disk := { d with tmp := none, tmp_lt := fun _ h => by cases h }

/-- `os.Rename` of the temporary path, which `f` is at, to the executable. -/
def rename (f : ℕ) (hf : f < d.next) : Disk :=
  { d with exe := f, tmp := none, exe_lt := hf, tmp_lt := fun _ h => by cases h }

end Disk

/-! ## Requests -/

/-- Bytes, written as characters. -/
abbrev Text := List Char

/-- `common.AgentUpdateRequest`. -/
structure AgentUpdateRequest where
  url : Text
  checksums : List (Text × Text)
  deriving DecidableEq, Repr

/-- `common.AgentUpdateResponse`. -/
structure AgentUpdateResponse where
  updated : Bool
  message : String
  deriving DecidableEq, Repr

/-- What the agent runs on, and the variable `HUB_URL`. -/
structure Host where
  goos : Text
  arch : Text
  hubURL : Text
  deriving DecidableEq, Repr

/-- The errors of `selfUpdateFromHub`. -/
inductive Failure
  | unsupported
  | noStagedBinary (arch : Text)
  | system (err : String)
  | noHubURL
  | downloadFailed (err : String)
  | checksumMismatch (got want : Text)
  | notReplaced (err : String)
  deriving DecidableEq, Repr

/-- Their texts. -/
def Failure.text : Failure → String
  | .unsupported => "unsupported operation"
  | .noStagedBinary arch => "hub has no staged binary for " ++ String.ofList arch
  | .system err => err
  | .noHubURL => "no hub URL available for download"
  | .downloadFailed err => "download failed: " ++ err
  | .checksumMismatch got want =>
    "checksum mismatch (got " ++ String.ofList got ++ ", want " ++ String.ofList want ++ ")"
  | .notReplaced err => "failed to replace binary (agent running as non-root?): " ++ err

/-- What a request ends with. -/
abbrev Result := Except Failure AgentUpdateResponse

/-- `fileSha256`, of the contents. -/
def fileSha256 (data : List UInt8) : Text := Sha256.encodeToString (Sha256.sum256 data)

/-- The checksum that a request wants. -/
def wantSum (host : Host) (req : AgentUpdateRequest) : Text :=
  (req.checksums.lookup host.arch).getD []

/-- `downloadURL`. -/
def downloadURL (host : Host) (baseURL : Text) : Text :=
  (if baseURL.getLast? = some '/' then baseURL.dropLast else baseURL) ++
    "/agent-download?arch=".toList ++ host.arch

/-- **Where a request is.**  A file that is hashed is read chunk by chunk; `changes` is its number
of changes as it was opened. -/
inductive Phase
  | idle
  | hashingCurrent (file : ℕ) (read : List UInt8)
  | requesting (url : Text)
  | downloading (file offset : ℕ)
  | opening
  | hashing (file changes : ℕ) (read : List UInt8)
  | chmodding (file changes : ℕ)
  | replacing (file changes : ℕ)
  | returning (result : Result)
  | panicking
  | done (result : Result)
  | panicked
  deriving DecidableEq

/-! ## The machine -/

section Machine

variable {ι : Type} [DecidableEq ι]

/-- The files and the requests.  `replacements` are the requests that have replaced the executable,
the last one first, with what they have put there. -/
structure State (ι : Type) where
  disk : Disk
  phase : ι → Phase
  replacements : List (ι × List UInt8)

/-- An operation of a request, with how it comes out. -/
inductive Event (ι : Type)
  | begin (i : ι) (located : Option String) (opens : Bool)
  | read (i : ι) (n : ℕ)
  | sum (i : ι) (err : Option String)
  | fetch (i : ι) (err : Option String)
  | write (i : ι) (chunk : List UInt8)
  | fetched (i : ι) (err : Option String)
  | openTmp (i : ι) (err : Option String)
  | chmod (i : ι) (err : Option String)
  | rename (i : ι) (err : Option String)
  | remove (i : ι) (ok : Bool)

/-- A request goes on. -/
def State.goTo (s : State ι) (i : ι) (phase : Phase) : State ι :=
  { s with phase := Function.update s.phase i phase }

/-- …and has changed the files. -/
def State.put (s : State ι) (disk : Disk) (i : ι) (phase : Phase) : State ι :=
  { s.goTo i phase with disk := disk }

/-- The executable is not the staged one: it is downloaded. -/
def download (host : Host) (req : AgentUpdateRequest) : Phase :=
  let baseURL := if host.hubURL = [] then req.url else host.hubURL
  if baseURL = [] then .done (.error .noHubURL) else .requesting (downloadURL host baseURL)

/-- The hash of the executable is compared. -/
def compareCurrent (host : Host) (req : AgentUpdateRequest) (currentSum : Text) : Phase :=
  if currentSum = wantSum host req then .done (.ok ⟨false, "agent is already up to date"⟩)
  else download host req

/-- Up to the hash of the executable. -/
def begin (host : Host) (req : AgentUpdateRequest) (exe : ℕ) (located : Option String)
    (opens : Bool) : Phase :=
  if host.goos = "windows".toList then .done (.error .unsupported)
  else if wantSum host req = [] then .done (.error (.noStagedBinary host.arch))
  else
    match located with
    | some err => .done (.error (.system err))
    | none => if opens then .hashingCurrent exe [] else download host req

/-- The hash of the download is compared.  The message slices the checksum that is wanted. -/
def compare (host : Host) (req : AgentUpdateRequest) (file changes : ℕ) (gotSum : Text) : Phase :=
  if gotSum = wantSum host req then .chmodding file changes
  else if (wantSum host req).length < 12 then .panicking
  else .returning (.error (.checksumMismatch (gotSum.take 12) ((wantSum host req).take 12)))

/-- **An operation of a request.** -/
def step (host : Host) (req : ι → AgentUpdateRequest) (s : State ι) : Event ι → Option (State ι)
  | .begin i located opens =>
    match s.phase i with
    | .idle => some (s.goTo i (begin host (req i) s.disk.exe located opens))
    | _ => none
  | .read i n =>
    match s.phase i with
    | .hashingCurrent file read =>
      some (s.goTo i
        (.hashingCurrent file (read ++ ((s.disk.files file).data.drop read.length).take n)))
    | .hashing file changes read =>
      some (s.goTo i
        (.hashing file changes (read ++ ((s.disk.files file).data.drop read.length).take n)))
    | _ => none
  | .sum i err =>
    match s.phase i, err with
    | .hashingCurrent _ _, some _ => some (s.goTo i (download host (req i)))
    | .hashingCurrent file read, none =>
      if (s.disk.files file).data.length ≤ read.length then
        some (s.goTo i (compareCurrent host (req i) (fileSha256 read)))
      else none
    | .hashing _ _ _, some err => some (s.goTo i (.returning (.error (.system err))))
    | .hashing file changes read, none =>
      if (s.disk.files file).data.length ≤ read.length then
        some (s.goTo i (compare host (req i) file changes (fileSha256 read)))
      else none
    | _, _ => none
  | .fetch i err =>
    match s.phase i, err with
    | .requesting _, some err => some (s.goTo i (.done (.error (.downloadFailed err))))
    | .requesting _, none => some (s.put s.disk.openTmp.1 i (.downloading s.disk.openTmp.2 0))
    | _, _ => none
  | .write i chunk =>
    match s.phase i with
    | .downloading file offset =>
      some (s.put (s.disk.write file offset chunk) i (.downloading file (offset + chunk.length)))
    | _ => none
  | .fetched i err =>
    match s.phase i, err with
    | .downloading _ _, some err => some (s.goTo i (.done (.error (.downloadFailed err))))
    | .downloading _ _, none => some (s.goTo i .opening)
    | _, _ => none
  | .openTmp i err =>
    match s.phase i, err, s.disk.tmp with
    | .opening, some err, _ => some (s.goTo i (.returning (.error (.system err))))
    | .opening, none, some file =>
      some (s.goTo i (.hashing file (s.disk.files file).changes []))
    | _, _, _ => none
  | .chmod i err =>
    match s.phase i, err, s.disk.tmp with
    | .chmodding _ _, some err, _ => some (s.goTo i (.returning (.error (.system err))))
    | .chmodding file changes, none, some _ => some (s.goTo i (.replacing file changes))
    | _, _, _ => none
  | .rename i err =>
    match s.phase i, err with
    | .replacing _ _, some err => some (s.goTo i (.returning (.error (.notReplaced err))))
    | .replacing _ _, none =>
      match h : s.disk.tmp with
      | some file =>
        some { s.put (s.disk.rename file (s.disk.tmp_lt file h).1) i
            (.returning (.ok ⟨true, "updated, restarting"⟩)) with
          replacements := (i, (s.disk.files file).data) :: s.replacements }
      | none => none
    | _, _ => none
  | .remove i ok =>
    let disk := if ok then s.disk.removeTmp else s.disk
    match s.phase i with
    | .returning result => some (s.put disk i (.done result))
    | .panicking => some (s.put disk i .panicked)
    | _ => none

/-- Before the first request. -/
def State.start (disk : Disk) : State ι := ⟨disk, fun _ => .idle, []⟩

/-! ## What is installed -/

/-- A request that has ended with an error. -/
def Phase.Failed : Phase → Prop
  | .returning (.error _) => True
  | .done (.error _) => True
  | _ => False

/-- **Nothing but verified contents is installed, and nothing crashes**: the executable holds what
was there at first or what the last replacement has put there, each replacement has put what its
request wants, and a request that ends with an error has replaced nothing. -/
structure Sound (host : Host) (req : ι → AgentUpdateRequest) (first : List UInt8) (s : State ι) :
    Prop where
  no_panic : ∀ i, s.phase i ≠ .panicking ∧ s.phase i ≠ .panicked
  executable : s.disk.binary = (s.replacements.head?.map Prod.snd).getD first
  verified : ∀ r ∈ s.replacements, fileSha256 r.2 = wantSum host (req r.1)
  on_error : ∀ i, (s.phase i).Failed → i ∉ s.replacements.map Prod.fst

/-- The request is about to compare the hash of its download. -/
def Phase.compares : Phase → Bool
  | .hashing _ _ _ => true
  | _ => false

/-- The file that the request downloads to. -/
def Phase.target : Phase → Option ℕ
  | .downloading file _ => some file
  | _ => none

/-- The file that the request has hashed, and is about to rename, with its changes as of then. -/
def Phase.hashed : Phase → Option (ℕ × ℕ)
  | .replacing file changes => some (file, changes)
  | _ => none

/-- **The steps that do no harm**: a checksum that is compared has twelve bytes, what is written to
is not the executable, and what is renamed is the file that was hashed, unchanged since. -/
def Harmless (host : Host) (req : ι → AgentUpdateRequest) (s : State ι) : Event ι → Prop
  | .sum i none => (s.phase i).compares = true → 12 ≤ (wantSum host (req i)).length
  | .write i _ => ∀ file ∈ (s.phase i).target, file ≠ s.disk.exe
  | .rename i none => ∀ h ∈ (s.phase i).hashed,
      s.disk.tmp = some h.1 ∧ (s.disk.files h.1).changes = h.2
  | _ => True

/-- What holds of a request on its way. -/
def Phase.Holds (d : Disk) (want : Text) : Phase → Prop
  | .downloading f _ => f < d.next
  | .hashing f changes read =>
    f < d.next ∧ changes ≤ (d.files f).changes ∧
      ((d.files f).changes = changes → read <+: (d.files f).data)
  | .chmodding f changes =>
    f < d.next ∧ changes ≤ (d.files f).changes ∧
      ((d.files f).changes = changes → fileSha256 (d.files f).data = want)
  | .replacing f changes =>
    f < d.next ∧ changes ≤ (d.files f).changes ∧
      ((d.files f).changes = changes → fileSha256 (d.files f).data = want)
  | .panicking => False
  | .panicked => False
  | _ => True

/-- A request that has updated the agent. -/
def Phase.Updated : Phase → Prop
  | .returning (.ok _) => True
  | .done (.ok _) => True
  | _ => False

/-- The invariant. -/
structure Inv (host : Host) (req : ι → AgentUpdateRequest) (first : List UInt8) (s : State ι) :
    Prop where
  holds : ∀ i, (s.phase i).Holds s.disk (wantSum host (req i))
  executable : s.disk.binary = (s.replacements.head?.map Prod.snd).getD first
  verified : ∀ r ∈ s.replacements, fileSha256 r.2 = wantSum host (req r.1)
  updated : ∀ i ∈ s.replacements.map Prod.fst, (s.phase i).Updated

/-! ## Changes of the files -/

/-- A file that was there has changed, and counts it, or is as it was. -/
def Disk.Later (d d' : Disk) : Prop :=
  d.next ≤ d'.next ∧
    ∀ f < d.next, d'.files f = d.files f ∨ (d.files f).changes < (d'.files f).changes

variable {d d' : Disk} {want : Text} {f : ℕ}

theorem Disk.later_of_eq (hnext : d'.next = d.next) (hfiles : d'.files = d.files) : d.Later d' :=
  ⟨hnext.ge, fun _ _ => .inl (congrFun hfiles _)⟩

theorem Disk.later_change (d : Disk) (f : ℕ) (data : List UInt8) : d.Later (d.change f data) := by
  refine ⟨Nat.le_refl _, fun g _ => ?_⟩
  by_cases heq : g = f
  · subst heq
    have hself : (d.change g data).files g = ⟨data, (d.files g).changes + 1⟩ :=
      Function.update_self _ _ _
    exact .inr (hself ▸ Nat.lt_succ_self _)
  · exact .inl (Function.update_of_ne heq _ _)

theorem Disk.later_create (d : Disk) : d.Later d.create :=
  ⟨Nat.le_succ _, fun _ hg => .inl (Function.update_of_ne (Nat.ne_of_lt hg) _ _)⟩

theorem Disk.later_openTmp (d : Disk) : d.Later d.openTmp.1 := by
  unfold openTmp
  cases d.tmp with
  | some f => exact d.later_change f []
  | none => exact d.later_create

theorem Disk.binary_change {data : List UInt8} (hne : f ≠ d.exe) :
    (d.change f data).binary = d.binary :=
  congrArg File.data (Function.update_of_ne hne.symm _ _)

/-- The executable is never at the temporary path, so opening that leaves it alone. -/
theorem Disk.binary_openTmp (d : Disk) : d.openTmp.1.binary = d.binary := by
  unfold openTmp
  cases htmp : d.tmp with
  | some f => exact binary_change (d.tmp_lt f htmp).2
  | none => exact congrArg File.data (Function.update_of_ne (Nat.ne_of_lt d.exe_lt) _ _)

theorem Disk.openTmp_lt (d : Disk) : d.openTmp.2 < d.openTmp.1.next := by
  unfold openTmp
  cases htmp : d.tmp with
  | some f => exact (d.tmp_lt f htmp).1
  | none => exact Nat.lt_succ_self _

/-- Counting the changes, a request knows when its file is another. -/
theorem Phase.Holds.later {phase : Phase} (h : phase.Holds d want) (hlater : d.Later d') :
    phase.Holds d' want := by
  have hframe (P : List UInt8 → Prop) {f changes : ℕ}
      (h : f < d.next ∧ changes ≤ (d.files f).changes ∧
        ((d.files f).changes = changes → P (d.files f).data)) :
      f < d'.next ∧ changes ≤ (d'.files f).changes ∧
        ((d'.files f).changes = changes → P (d'.files f).data) := by
    obtain ⟨hlt, hle, hdata⟩ := h
    refine ⟨Nat.lt_of_lt_of_le hlt hlater.1, ?_⟩
    rcases hlater.2 f hlt with heq | hmore
    · rw [heq]
      exact ⟨hle, hdata⟩
    · have hlt := Nat.lt_of_le_of_lt hle hmore
      exact ⟨hlt.le, fun heq => absurd heq (Nat.ne_of_gt hlt)⟩
  cases phase with
  | downloading f offset => exact Nat.lt_of_lt_of_le h hlater.1
  | hashing f changes read => exact hframe (read <+: ·) h
  | chmodding f changes => exact hframe (fileSha256 · = want) h
  | replacing f changes => exact hframe (fileSha256 · = want) h
  | panicking => exact h
  | panicked => exact h
  | _ => trivial

/-! ## The steps -/

variable {host : Host} {req : ι → AgentUpdateRequest} {first : List UInt8} {s s' : State ι} {i : ι}
  {before phase : Phase}

omit [DecidableEq ι] in
theorem Inv.holds_of_eq (h : Inv host req first s) (hphase : s.phase i = phase) :
    phase.Holds s.disk (wantSum host (req i)) :=
  hphase ▸ h.holds i

/-- **A request goes on with files that leave the executable alone.** -/
theorem Inv.put {disk : Disk} (h : Inv host req first s) (hlater : s.disk.Later disk)
    (hbinary : disk.binary = s.disk.binary) (hphase : s.phase i = before)
    (hholds : phase.Holds disk (wantSum host (req i)))
    (hupdated : before.Updated → phase.Updated) : Inv host req first (s.put disk i phase) where
  holds j := by
    change Phase.Holds _ _ (Function.update s.phase i phase j)
    by_cases heq : j = i
    · subst heq
      rwa [Function.update_self]
    · rw [Function.update_of_ne heq]
      exact (h.holds j).later hlater
  executable := hbinary.trans h.executable
  verified := h.verified
  updated j hj := by
    change (Function.update s.phase i phase j).Updated
    by_cases heq : j = i
    · subst heq
      rw [Function.update_self]
      exact hupdated (hphase ▸ h.updated j hj)
    · rw [Function.update_of_ne heq]
      exact h.updated j hj

theorem Inv.goTo (h : Inv host req first s) (hphase : s.phase i = before)
    (hholds : phase.Holds s.disk (wantSum host (req i)))
    (hupdated : before.Updated → phase.Updated) : Inv host req first (s.goTo i phase) :=
  h.put (s.disk.later_of_eq rfl rfl) rfl hphase hholds hupdated

/-- Nothing is asked of a request before its download. -/
theorem holds_download (req : AgentUpdateRequest) : (download host req).Holds d want := by
  unfold download
  dsimp only
  generalize (if host.hubURL = [] then req.url else host.hubURL) = baseURL
  split_ifs
  · trivial
  · trivial

theorem holds_compareCurrent (req : AgentUpdateRequest) (currentSum : Text) :
    (compareCurrent host req currentSum).Holds d want := by
  unfold compareCurrent
  split_ifs
  · trivial
  · exact holds_download req

theorem holds_begin (req : AgentUpdateRequest) (exe : ℕ) (located : Option String) (opens : Bool) :
    (begin host req exe located opens).Holds d want := by
  unfold begin
  by_cases hgoos : host.goos = "windows".toList
  · rw [if_pos hgoos]
    trivial
  · by_cases hwant : wantSum host req = []
    · rw [if_neg hgoos, if_pos hwant]
      trivial
    · rw [if_neg hgoos, if_neg hwant]
      cases located with
      | some err => trivial
      | none =>
        cases opens with
        | true => trivial
        | false => exact holds_download req

/-- What is read next is more of the file. -/
theorem prefix_read {data read : List UInt8} (h : read <+: data) (n : ℕ) :
    read ++ (data.drop read.length).take n <+: data := by
  obtain ⟨rest, rfl⟩ := h
  rw [List.drop_left]
  exact List.prefix_append_right_inj read |>.mpr (List.take_prefix n rest)

/-- **A comparison that does not crash** lets the file through that has the checksum. -/
theorem holds_compare {req : AgentUpdateRequest} {file changes : ℕ} {read : List UInt8}
    (hholds : Phase.Holds d (wantSum host req) (.hashing file changes read))
    (hend : (d.files file).data.length ≤ read.length) (hlong : 12 ≤ (wantSum host req).length) :
    (compare host req file changes (fileSha256 read)).Holds d (wantSum host req) := by
  obtain ⟨hlt, hle, hread⟩ := hholds
  unfold compare
  split_ifs with hsum hshort
  · refine ⟨hlt, hle, fun heq => ?_⟩
    rw [← (hread heq).eq_of_length_le hend]
    exact hsum
  · exact absurd hlong (Nat.not_le_of_lt hshort)
  · trivial

/-- **The executable is replaced** by a file that was hashed, unchanged since. -/
theorem Inv.replace {file changes : ℕ} (h : Inv host req first s)
    (hphase : s.phase i = .replacing file changes) (hfile : file < s.disk.next)
    (hchanges : (s.disk.files file).changes = changes) (response : AgentUpdateResponse) :
    Inv host req first
      { s.put (s.disk.rename file hfile) i (.returning (.ok response)) with
        replacements := (i, (s.disk.files file).data) :: s.replacements } := by
  have hput (j : ι) (hne : j ≠ i) :
      Function.update s.phase i (.returning (.ok response)) j = s.phase j :=
    Function.update_of_ne hne _ _
  have hself : Function.update s.phase i (.returning (.ok response)) i =
      .returning (.ok response) := Function.update_self _ _ _
  refine ⟨fun j => ?_, rfl, ?_, fun j hj => ?_⟩
  · change Phase.Holds _ _ (Function.update s.phase i _ j)
    by_cases heq : j = i
    · rw [heq, hself]
      trivial
    · rw [hput j heq]
      exact (h.holds j).later (s.disk.later_of_eq rfl rfl)
  · rw [List.forall_mem_cons]
    exact ⟨(h.holds_of_eq hphase).2.2 hchanges, h.verified⟩
  · change (Function.update s.phase i _ j).Updated
    by_cases heq : j = i
    · rw [heq, hself]
      trivial
    · rw [hput j heq]
      exact h.updated j ((List.mem_cons.mp hj).resolve_left heq)

/-- **A comparison crashes exactly if** the checksum that is wanted is too short to be sliced. -/
theorem compare_panics_iff (req : AgentUpdateRequest) (file changes : ℕ) (data : List UInt8) :
    compare host req file changes (fileSha256 data) = .panicking ↔
      (wantSum host req).length < 12 := by
  have hlength : (fileSha256 data).length = 64 := by
    unfold fileSha256
    rw [Sha256.length_encodeToString, Sha256.length_sum256]
  unfold compare
  split_ifs with hsum hshort
  · refine iff_of_false (fun h => by cases h) fun hshort => ?_
    rw [← hsum, hlength] at hshort
    exact absurd hshort (by decide)
  · exact iff_of_true rfl hshort
  · exact iff_of_false (fun h => by cases h) hshort

/-- The executable or the download is read on. -/
theorem Inv.stepRead {n : ℕ} (h : Inv host req first s)
    (hs : HubUpdate.step host req s (.read i n) = some s') : Inv host req first s' := by
  simp only [HubUpdate.step] at hs
  split at hs
  · next hphase =>
    obtain rfl := Option.some.inj hs
    exact h.goTo hphase trivial False.elim
  · next file changes read hphase =>
    obtain rfl := Option.some.inj hs
    obtain ⟨hlt, hle, hread⟩ := h.holds_of_eq hphase
    exact h.goTo hphase ⟨hlt, hle, fun heq => prefix_read (hread heq) n⟩ False.elim
  · cases hs

/-- A hash is compared. -/
theorem Inv.stepSum {err : Option String} (h : Inv host req first s)
    (hok : Harmless host req s (.sum i err))
    (hs : HubUpdate.step host req s (.sum i err) = some s') : Inv host req first s' := by
  simp only [HubUpdate.step] at hs
  split at hs
  · next hphase =>
    obtain rfl := Option.some.inj hs
    exact h.goTo hphase (holds_download _) False.elim
  · next file read hphase =>
    split_ifs at hs with hend
    obtain rfl := Option.some.inj hs
    exact h.goTo hphase (holds_compareCurrent _ _) False.elim
  · next hphase =>
    obtain rfl := Option.some.inj hs
    exact h.goTo hphase trivial False.elim
  · next file changes read hphase =>
    split_ifs at hs with hend
    obtain rfl := Option.some.inj hs
    have hlong := hok (hphase ▸ rfl)
    exact h.goTo hphase (holds_compare (h.holds_of_eq hphase) hend hlong) False.elim
  · cases hs

/-- What is at the temporary path replaces the executable. -/
theorem Inv.stepRename {err : Option String} (h : Inv host req first s)
    (hok : Harmless host req s (.rename i err))
    (hs : HubUpdate.step host req s (.rename i err) = some s') : Inv host req first s' := by
  simp only [HubUpdate.step] at hs
  split at hs
  · next hphase =>
    obtain rfl := Option.some.inj hs
    exact h.goTo hphase trivial False.elim
  · next file changes hphase =>
    obtain ⟨htmp, hchanges⟩ := hok (file, changes) (hphase ▸ rfl)
    split at hs
    · next file' htmp' =>
      obtain rfl : file = file' := Option.some.inj (htmp.symm.trans htmp')
      obtain rfl := Option.some.inj hs
      exact h.replace hphase _ hchanges _
    · cases hs
  · cases hs

/-- The temporary file is removed, and the request ends. -/
theorem Inv.stepRemove {ok : Bool} (h : Inv host req first s)
    (hs : HubUpdate.step host req s (.remove i ok) = some s') : Inv host req first s' := by
  simp only [HubUpdate.step] at hs
  split at hs
  · next result hphase =>
    obtain rfl := Option.some.inj hs
    have hupdated : (Phase.returning result).Updated → (Phase.done result).Updated := by
      cases result with
      | ok response => exact id
      | error err => exact id
    cases ok with
    | true => exact h.put (s.disk.later_of_eq rfl rfl) rfl hphase trivial hupdated
    | false => exact h.goTo hphase trivial hupdated
  · next hphase => exact (h.holds_of_eq hphase).elim
  · cases hs

/-- **A step that does no harm.** -/
theorem Inv.step {e : Event ι} (h : Inv host req first s) (hok : Harmless host req s e)
    (hs : HubUpdate.step host req s e = some s') : Inv host req first s' := by
  cases e with
  | begin i located opens =>
    simp only [HubUpdate.step] at hs
    split at hs
    · next hphase =>
      obtain rfl := Option.some.inj hs
      exact h.goTo hphase (holds_begin _ _ _ _) False.elim
    · cases hs
  | read i n => exact h.stepRead hs
  | sum i err => exact h.stepSum hok hs
  | fetch i err =>
    simp only [HubUpdate.step] at hs
    split at hs
    · next hphase =>
      obtain rfl := Option.some.inj hs
      exact h.goTo hphase trivial False.elim
    · next hphase =>
      obtain rfl := Option.some.inj hs
      exact h.put s.disk.later_openTmp s.disk.binary_openTmp hphase s.disk.openTmp_lt False.elim
    · cases hs
  | write i chunk =>
    simp only [HubUpdate.step] at hs
    split at hs
    · next file offset hphase =>
      obtain rfl := Option.some.inj hs
      have hne := hok file (hphase ▸ rfl)
      exact h.put (s.disk.later_change file _) (Disk.binary_change hne) hphase
        (h.holds_of_eq hphase) False.elim
    · cases hs
  | fetched i err =>
    simp only [HubUpdate.step] at hs
    split at hs
    · next hphase =>
      obtain rfl := Option.some.inj hs
      exact h.goTo hphase trivial False.elim
    · next hphase =>
      obtain rfl := Option.some.inj hs
      exact h.goTo hphase trivial False.elim
    · cases hs
  | openTmp i err =>
    simp only [HubUpdate.step] at hs
    split at hs
    · next hphase =>
      obtain rfl := Option.some.inj hs
      exact h.goTo hphase trivial False.elim
    · next file hphase htmp =>
      obtain rfl := Option.some.inj hs
      refine h.goTo hphase ⟨(s.disk.tmp_lt file htmp).1, Nat.le_refl _, fun _ => ?_⟩ False.elim
      exact List.nil_prefix
    · cases hs
  | chmod i err =>
    simp only [HubUpdate.step] at hs
    split at hs
    · next hphase =>
      obtain rfl := Option.some.inj hs
      exact h.goTo hphase trivial False.elim
    · next hphase _ =>
      obtain rfl := Option.some.inj hs
      have hholds := h.holds_of_eq hphase
      exact h.goTo hphase ⟨hholds.1, hholds.2⟩ False.elim
    · cases hs
  | rename i err => exact h.stepRename hok hs
  | remove i ok => exact h.stepRemove hs

omit [DecidableEq ι] in
theorem Inv.start (disk : Disk) : Inv host req disk.binary (State.start disk) where
  holds _ := trivial
  executable := rfl
  verified := by simp [State.start]
  updated := by simp [State.start]

omit [DecidableEq ι] in
theorem Inv.sound (h : Inv host req first s) : Sound host req first s where
  no_panic i := ⟨fun hphase => h.holds_of_eq hphase, fun hphase => h.holds_of_eq hphase⟩
  executable := h.executable
  verified := h.verified
  on_error i hfailed hmem := by
    have hupdated := h.updated i hmem
    cases hphase : s.phase i with
    | returning result =>
      rw [hphase] at hfailed hupdated
      cases result with
      | ok response => exact hfailed
      | error err => exact hupdated
    | done result =>
      rw [hphase] at hfailed hupdated
      cases result with
      | ok response => exact hfailed
      | error err => exact hupdated
    | _ =>
      rw [hphase] at hfailed
      exact hfailed

/-- **As long as the steps do no harm, nothing but verified contents is installed, and nothing
crashes.** -/
theorem sound_of_harmless (host : Host) (req : ι → AgentUpdateRequest) (disk : Disk)
    {es : List (Event ι)} (hok : Along (step host req) (Harmless host req) (.start disk) es)
    (hr : run (step host req) (.start disk) es = some s) : Sound host req disk.binary s :=
  (inv_of_along Inv.step (.start disk) hok hr).sound

end Machine

/-! ## Runs -/

instance {ι : Type} (host : Host) (req : ι → AgentUpdateRequest) (s : State ι) :
    ∀ e, Decidable (Harmless host req s e)
  | .sum _ none => inferInstanceAs (Decidable (_ → _))
  | .write _ _ => inferInstanceAs (Decidable (∀ _ ∈ _, _))
  | .rename _ none => inferInstanceAs (Decidable (∀ _ ∈ _, _))
  | .begin _ _ _ => .isTrue trivial
  | .read _ _ => .isTrue trivial
  | .sum _ (some _) => .isTrue trivial
  | .fetch _ _ => .isTrue trivial
  | .fetched _ _ => .isTrue trivial
  | .openTmp _ _ => .isTrue trivial
  | .chmod _ _ => .isTrue trivial
  | .rename _ (some _) => .isTrue trivial
  | .remove _ _ => .isTrue trivial

/-- The executable of the bytes 1, 2, and nothing at the temporary path. -/
def exampleDisk : Disk where
  files _ := ⟨[1, 2], 0⟩
  next := 1
  exe := 0
  tmp := none
  exe_lt := by decide
  tmp_lt := fun _ h => by cases h

def exampleHost : Host := ⟨"linux".toList, "amd64".toList, []⟩

/-- The hub has staged a binary, with a checksum. -/
def staged (checksum : String) : AgentUpdateRequest :=
  ⟨"https://hub".toList, [("amd64".toList, checksum.toList)]⟩

/-- The checksum of the bytes 3, 4, 5. -/
def exampleSum : String := "2848698aa4b3431e3db06c343ca2cb0455f8aaf16c85cdd828c92ddf7dc134f8"

/-- A request downloads these bytes and hashes them. -/
def verify (i : ℕ) : List (Event ℕ) :=
  [.begin i none true, .read i 2, .sum i none, .fetch i none, .write i [3, 4], .write i [5],
    .fetched i none, .openTmp i none, .read i 3, .sum i none]

/-- Where nothing comes between, the executable is the staged one. -/
theorem sound_of_harmless_once :
    ∃ s, run (step exampleHost fun _ : ℕ => staged exampleSum) (.start exampleDisk)
        (verify 0 ++ [.chmod 0 none, .rename 0 none, .remove 0 false, .begin 1 none true]) =
          some s ∧
      s.disk.binary = [3, 4, 5] ∧
      Sound exampleHost (fun _ => staged exampleSum) exampleDisk.binary s := by
  have hrun : (run (step exampleHost fun _ : ℕ => staged exampleSum) (.start exampleDisk)
      (verify 0 ++ [.chmod 0 none, .rename 0 none, .remove 0 false, .begin 1 none true])).map
        (·.disk.binary) = some [3, 4, 5] := by decide +kernel
  obtain ⟨s, hs, hbinary⟩ := Option.map_eq_some_iff.mp hrun
  exact ⟨s, hs, hbinary, sound_of_harmless _ _ _ (by decide +kernel) hs⟩

/-- **A second request empties the file that the first has verified**, which is then renamed; and a
checksum that is too short for the message crashes the agent. -/
theorem not_sound_of_overlap :
    (∃ s, run (step exampleHost fun _ : ℕ => staged exampleSum) (.start exampleDisk)
        (verify 0 ++ [.begin 1 none false, .fetch 1 none, .chmod 0 none, .rename 0 none]) = some s ∧
      ¬Sound exampleHost (fun _ => staged exampleSum) exampleDisk.binary s) ∧
    ∃ s, run (step exampleHost fun _ : ℕ => staged "2848698aa4b") (.start exampleDisk)
        (verify 0) = some s ∧
      ¬Sound exampleHost (fun _ => staged "2848698aa4b") exampleDisk.binary s := by
  constructor
  · have hrun : (run (step exampleHost fun _ : ℕ => staged exampleSum) (.start exampleDisk)
        (verify 0 ++ [.begin 1 none false, .fetch 1 none, .chmod 0 none, .rename 0 none])).map
          (·.replacements) = some [(0, [])] := by decide +kernel
    obtain ⟨s, hs, hreplacements⟩ := Option.map_eq_some_iff.mp hrun
    refine ⟨s, hs, fun hsound => ?_⟩
    have hverified := hsound.verified (0, []) (hreplacements ▸ List.mem_cons_self)
    exact absurd hverified (by decide +kernel)
  · have hrun : (run (step exampleHost fun _ : ℕ => staged "2848698aa4b") (.start exampleDisk)
        (verify 0)).map (·.phase 0) = some .panicking := by decide +kernel
    obtain ⟨s, hs, hphase⟩ := Option.map_eq_some_iff.mp hrun
    exact ⟨s, hs, fun hsound => (hsound.no_panic 0).1 hphase⟩

end HubUpdate

end Beszel
