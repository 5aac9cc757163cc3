import Beszel.Agent.HubUpdate

/-!
# Hub/StagedAgents — the binary that the hub stages gets to the agent

    agents/beszel-agent_linux_amd64 ──stagedAgentChecksums──▸ request ──▸ agent
                      ╰──────────────serveAgentBinary───────download──────╯

`stagedAgentChecksums`, `serveAgentBinary` and the request of `updateAgent` of
`internal/hub/agent_install.go`, and what one request comes to on an agent where nothing fails and
no other request is on its way: in whatever pieces the files are read and the download arrives, and
also if another binary is staged between the request and the download.
-/

namespace Beszel

open Machinery HubUpdate

namespace StagedAgents

/-! ## The hub -/

/-- `allowedAgentArch`. -/
def allowedAgentArch : List Text := ["amd64".toList, "arm64".toList]

/-- The binaries in the directory `agents`, by their architecture. -/
abbrev Agents := Text → Option (List UInt8)

/-- `stagedAgentChecksums`. -/
def stagedAgentChecksums (agents : Agents) : List (Text × Text) :=
  allowedAgentArch.filterMap fun arch => (agents arch).map fun data => (arch, fileSha256 data)

/-- The request of `updateAgent`, if there is something staged. -/
def updateRequest (appURL : Text) (agents : Agents) : Option AgentUpdateRequest :=
  let checksums := stagedAgentChecksums agents
  if checksums.length = 0 then none else some ⟨appURL, checksums⟩

/-- The status of `serveAgentBinary`, and the body if it is 200. -/
def serveAgentBinary (agents : Agents) (arch : Text) : ℕ × List UInt8 :=
  if !allowedAgentArch.contains arch then (400, [])
  else
    match agents arch with
    | none => (404, [])
    | some data => (200, data)

/-- The checksum of an architecture is that of its binary. -/
theorem lookup_stagedAgentChecksums {agents : Agents} {arch : Text}
    (harch : arch ∈ allowedAgentArch) :
    (stagedAgentChecksums agents).lookup arch = (agents arch).map fileSha256 := by
  have hcases : arch = "amd64".toList ∨ arch = "arm64".toList := by
    simpa [allowedAgentArch] using harch
  unfold stagedAgentChecksums allowedAgentArch
  simp only [List.filterMap_cons, List.filterMap_nil]
  cases hamd : agents "amd64".toList <;> cases harm : agents "arm64".toList <;>
    obtain rfl | rfl := hcases <;> first | rw [hamd] | rw [harm]
  all_goals rfl

/-! ## One request -/

section Request

variable {ι : Type} [DecidableEq ι] {host : Host} {req : ι → AgentUpdateRequest} {i : ι}
  {first served : List UInt8} {want : Text} {s s' : State ι} {e : Event ι}

/-- How far the download is. -/
def downloaded : Phase → Option ℕ
  | .downloading _ offset => some offset
  | _ => none

/-- **Nothing fails and nothing comes between**: the steps are those of one request, its download
is answered with the status 200, it is what the hub serves, and it ends where that ends. -/
def Undisturbed (i : ι) (answer : ℕ × List UInt8) (s : State ι) : Event ι → Prop
  | .begin j located opens => j = i ∧ located = none ∧ opens = true
  | .read j _ => j = i
  | .fetch j err => j = i ∧ err = none ∧ answer.1 = 200
  | .write j chunk => j = i ∧ ∀ offset ∈ downloaded (s.phase i), chunk <+: answer.2.drop offset
  | .fetched j err => j = i ∧ err = none ∧
      ∀ offset ∈ downloaded (s.phase i), answer.2.length ≤ offset
  | .sum j err | .openTmp j err | .chmod j err | .rename j err => j = i ∧ err = none
  | .remove j _ => j = i

/-- **What a request comes to**: the executable has the checksum that is wanted; or it is replaced
by what was served, if that has it; or nothing is done. -/
inductive Outcome (first served : List UInt8) (want : Text) : Result → List UInt8 → Prop
  | upToDate (h : fileSha256 first = want) :
    Outcome first served want (.ok ⟨false, "agent is already up to date"⟩) first
  | updated (h : fileSha256 first ≠ want) (h' : fileSha256 served = want) :
    Outcome first served want (.ok ⟨true, "updated, restarting"⟩) served
  | mismatch (h : fileSha256 first ≠ want) (h' : fileSha256 served ≠ want) :
    Outcome first served want
      (.error (.checksumMismatch ((fileSha256 served).take 12) (want.take 12))) first

/-- The file at the temporary path holds the data. -/
def Holds (d : Disk) (file : ℕ) (data : List UInt8) : Prop :=
  d.tmp = some file ∧ (d.files file).data = data

/-- **What holds of a request on its way.** -/
def Stands (first served : List UInt8) (want : Text) (d : Disk) : Phase → Prop
  | .idle => d.binary = first
  | .hashingCurrent file read => d.binary = first ∧ file = d.exe ∧ read <+: first
  | .requesting _ => d.binary = first ∧ fileSha256 first ≠ want
  | .downloading file offset => d.binary = first ∧ fileSha256 first ≠ want ∧
      offset ≤ served.length ∧ Holds d file (served.take offset)
  | .opening => d.binary = first ∧ fileSha256 first ≠ want ∧ ∃ file, Holds d file served
  | .hashing file _ read => d.binary = first ∧ fileSha256 first ≠ want ∧ Holds d file served ∧
      read <+: served
  | .chmodding file _ | .replacing file _ => d.binary = first ∧ fileSha256 first ≠ want ∧
      Holds d file served ∧ fileSha256 served = want
  | .returning result | .done result => Outcome first served want result d.binary
  | .panicking | .panicked => False

/-- Writing to the temporary path leaves the executable alone. -/
theorem Holds.write {d : Disk} {file : ℕ} {data : List UInt8} (h : Holds d file data)
    (offset : ℕ) (chunk : List UInt8) : (d.write file offset chunk).binary = d.binary :=
  Disk.binary_change (d.tmp_lt file h.1).2

/-- The next piece of a download. -/
theorem Holds.append {d : Disk} {file offset : ℕ} {chunk : List UInt8}
    (h : Holds d file (served.take offset)) (hle : offset ≤ served.length)
    (hchunk : chunk <+: served.drop offset) :
    Holds (d.write file offset chunk) file (served.take (offset + chunk.length)) := by
  refine ⟨h.1, ?_⟩
  unfold Disk.write Disk.change
  dsimp only
  rw [Function.update_self, h.2]
  dsimp only
  have hlength : (served.take offset).length = offset := List.length_take_of_le hle
  rw [List.take_of_length_le hlength.le, hlength, Nat.sub_self, List.replicate_zero,
    List.append_nil, List.drop_of_length_le (by omega), List.append_nil, List.take_add,
    ← List.prefix_iff_eq_take.mp hchunk]

theorem holds_openTmp (d : Disk) : Holds d.openTmp.1 d.openTmp.2 [] := by
  unfold Disk.openTmp
  cases htmp : d.tmp with
  | none => exact ⟨rfl, by simp [Disk.create]⟩
  | some file => exact ⟨htmp, by simp [Disk.change]⟩

@[simp] theorem goTo_phase (s : State ι) (i : ι) (phase : Phase) :
    (s.goTo i phase).phase i = phase := Function.update_self ..

@[simp] theorem put_phase (s : State ι) (d : Disk) (i : ι) (phase : Phase) :
    (s.put d i phase).phase i = phase := Function.update_self ..

/-- A host that can be updated from the hub. -/
structure Updatable (host : Host) (req : AgentUpdateRequest) : Prop where
  goos : host.goos ≠ "windows".toList
  url : host.hubURL ≠ [] ∨ req.url ≠ []
  want : 12 ≤ (wantSum host req).length

theorem Updatable.download {req : AgentUpdateRequest} (h : Updatable host req) :
    ∃ url, download host req = .requesting url := by
  have hbase : (if host.hubURL = [] then req.url else host.hubURL) ≠ [] := by
    split_ifs with henv
    · exact h.url.resolve_left (not_not.mpr henv)
    · exact henv
  exact ⟨_, if_neg hbase⟩

theorem Updatable.begin {req : AgentUpdateRequest} (h : Updatable host req) (exe : ℕ) :
    begin host req exe none true = .hashingCurrent exe [] := by
  have hwant : wantSum host req ≠ [] := by
    intro hnil
    have hlength := h.want
    rw [hnil] at hlength
    exact absurd hlength (by decide)
  rw [HubUpdate.begin, if_neg h.goos, if_neg hwant]
  rfl

/-- The hash of the executable. -/
theorem stands_compareCurrent {req : AgentUpdateRequest} (hhost : Updatable host req)
    {d : Disk} (hbinary : d.binary = first) :
    Stands first served (wantSum host req) d (compareCurrent host req (fileSha256 first)) := by
  unfold compareCurrent
  split_ifs with hsum
  · change Outcome first served _ _ d.binary
    rw [hbinary]
    exact .upToDate hsum
  · obtain ⟨url, hurl⟩ := hhost.download
    rw [hurl]
    exact ⟨hbinary, hsum⟩

/-- The hash of the download. -/
theorem stands_compare {req : AgentUpdateRequest} (hhost : Updatable host req) {d : Disk}
    (hbinary : d.binary = first) (hne : fileSha256 first ≠ wantSum host req) {file : ℕ}
    (hfile : Holds d file served) (changes : ℕ) :
    Stands first served (wantSum host req) d
      (HubUpdate.compare host req file changes (fileSha256 served)) := by
  unfold HubUpdate.compare
  split_ifs with hsum hshort
  · exact ⟨hbinary, hne, hfile, hsum⟩
  · exact absurd hhost.want (Nat.not_le_of_lt hshort)
  · change Outcome first served _ _ d.binary
    rw [hbinary]
    exact .mismatch hne hsum

/-- The executable is replaced. -/
theorem stands_replaced {d : Disk} {file changes : ℕ} (htmp : d.tmp = some file)
    (hs : Stands first served want d (.replacing file changes)) :
    Stands first served want (d.rename file (d.tmp_lt file htmp).1)
      (.returning (.ok ⟨true, "updated, restarting"⟩)) := by
  obtain ⟨-, hne, ⟨-, hdata⟩, hsum⟩ := hs
  have hbinary : (d.rename file (d.tmp_lt file htmp).1).binary = served := hdata
  change Outcome first served want _ (d.rename file _).binary
  rw [hbinary]
  exact .updated hne hsum

theorem stands_begin (hhost : Updatable host (req i))
    (hs : Stands first served (wantSum host (req i)) s.disk (s.phase i))
    (h : step host req s (.begin i none true) = some s') :
    Stands first served (wantSum host (req i)) s'.disk (s'.phase i) := by
  cases hphase : s.phase i with
  | idle =>
    simp only [step, hphase] at h
    rw [hphase] at hs
    cases h
    rw [goTo_phase, hhost.begin]
    exact ⟨hs, rfl, List.nil_prefix⟩
  | _ =>
    simp only [step, hphase] at h
    cases h

theorem stands_read {n : ℕ} (hs : Stands first served want s.disk (s.phase i))
    (h : step host req s (.read i n) = some s') :
    Stands first served want s'.disk (s'.phase i) := by
  cases hphase : s.phase i with
  | hashingCurrent file read =>
    simp only [step, hphase] at h
    rw [hphase] at hs
    cases h
    obtain ⟨rfl, rfl, hread⟩ := hs
    rw [goTo_phase]
    exact ⟨rfl, rfl, prefix_read hread n⟩
  | hashing file changes read =>
    simp only [step, hphase] at h
    rw [hphase] at hs
    cases h
    obtain ⟨hbinary, hne, ⟨htmp, rfl⟩, hread⟩ := hs
    rw [goTo_phase]
    exact ⟨hbinary, hne, ⟨htmp, rfl⟩, prefix_read hread n⟩
  | _ =>
    simp only [step, hphase] at h
    cases h

theorem stands_sum (hhost : Updatable host (req i))
    (hs : Stands first served (wantSum host (req i)) s.disk (s.phase i))
    (h : step host req s (.sum i none) = some s') :
    Stands first served (wantSum host (req i)) s'.disk (s'.phase i) := by
  cases hphase : s.phase i with
  | hashingCurrent file read =>
    simp only [step, hphase] at h
    rw [hphase] at hs
    obtain ⟨hend, rfl⟩ := guard_eq_some h
    obtain ⟨hbinary, rfl, hread⟩ := hs
    obtain rfl : read = first := hread.eq_of_length_le (hbinary ▸ hend)
    rw [goTo_phase]
    exact stands_compareCurrent hhost hbinary
  | hashing file changes read =>
    simp only [step, hphase] at h
    rw [hphase] at hs
    obtain ⟨hend, rfl⟩ := guard_eq_some h
    obtain ⟨hbinary, hne, hfile, hread⟩ := hs
    obtain rfl : read = served := hread.eq_of_length_le (hfile.2 ▸ hend)
    rw [goTo_phase]
    exact stands_compare hhost hbinary hne hfile changes
  | _ =>
    simp only [step, hphase] at h
    cases h

theorem stands_fetch (hs : Stands first served want s.disk (s.phase i))
    (h : step host req s (.fetch i none) = some s') :
    Stands first served want s'.disk (s'.phase i) := by
  cases hphase : s.phase i with
  | requesting url =>
    simp only [step, hphase] at h
    rw [hphase] at hs
    cases h
    rw [put_phase]
    exact ⟨(Disk.binary_openTmp _).trans hs.1, hs.2, Nat.zero_le _, holds_openTmp s.disk⟩
  | _ =>
    simp only [step, hphase] at h
    cases h

theorem stands_write {chunk : List UInt8} (hs : Stands first served want s.disk (s.phase i))
    (hchunk : ∀ offset ∈ downloaded (s.phase i), chunk <+: served.drop offset)
    (h : step host req s (.write i chunk) = some s') :
    Stands first served want s'.disk (s'.phase i) := by
  cases hphase : s.phase i with
  | downloading file offset =>
    simp only [step, hphase] at h
    rw [hphase] at hs
    cases h
    obtain ⟨hbinary, hne, hle, hfile⟩ := hs
    have hpiece := hchunk offset (hphase ▸ rfl)
    have hlength := hpiece.length_le
    rw [List.length_drop] at hlength
    rw [put_phase]
    exact ⟨(hfile.write offset chunk).trans hbinary, hne, by omega, hfile.append hle hpiece⟩
  | _ =>
    simp only [step, hphase] at h
    cases h

theorem stands_fetched (hs : Stands first served want s.disk (s.phase i))
    (hend : ∀ offset ∈ downloaded (s.phase i), served.length ≤ offset)
    (h : step host req s (.fetched i none) = some s') :
    Stands first served want s'.disk (s'.phase i) := by
  cases hphase : s.phase i with
  | downloading file offset =>
    simp only [step, hphase] at h
    rw [hphase] at hs
    cases h
    obtain ⟨hbinary, hne, -, hfile⟩ := hs
    rw [List.take_of_length_le (hend offset (hphase ▸ rfl))] at hfile
    rw [goTo_phase]
    exact ⟨hbinary, hne, file, hfile⟩
  | _ =>
    simp only [step, hphase] at h
    cases h

theorem stands_openTmp (hs : Stands first served want s.disk (s.phase i))
    (h : step host req s (.openTmp i none) = some s') :
    Stands first served want s'.disk (s'.phase i) := by
  cases hphase : s.phase i with
  | opening =>
    rw [hphase] at hs
    obtain ⟨hbinary, hne, file, hfile⟩ := hs
    simp only [step, hphase, hfile.1] at h
    cases h
    rw [goTo_phase]
    exact ⟨hbinary, hne, hfile, List.nil_prefix⟩
  | _ =>
    simp only [step, hphase] at h
    cases h

theorem stands_chmod (hs : Stands first served want s.disk (s.phase i))
    (h : step host req s (.chmod i none) = some s') :
    Stands first served want s'.disk (s'.phase i) := by
  cases hphase : s.phase i with
  | chmodding file changes =>
    rw [hphase] at hs
    simp only [step, hphase, hs.2.2.1.1] at h
    cases h
    rw [goTo_phase]
    exact hs
  | _ =>
    simp only [step, hphase] at h
    cases h

theorem stands_rename (hs : Stands first served want s.disk (s.phase i))
    (h : step host req s (.rename i none) = some s') :
    Stands first served want s'.disk (s'.phase i) := by
  cases hphase : s.phase i with
  | replacing file changes =>
    rw [hphase] at hs
    simp only [step, hphase] at h
    split at h
    · rename_i file' htmp
      cases h
      obtain rfl : file = file' := Option.some.inj (hs.2.2.1.1.symm.trans htmp)
      change Stands first served want (s.disk.rename file (s.disk.tmp_lt file htmp).1)
        ((s.put (s.disk.rename file (s.disk.tmp_lt file htmp).1) i _).phase i)
      rw [put_phase]
      exact stands_replaced htmp hs
    · cases h
  | _ =>
    simp only [step, hphase] at h
    cases h

theorem stands_remove {ok : Bool} (hs : Stands first served want s.disk (s.phase i))
    (h : step host req s (.remove i ok) = some s') :
    Stands first served want s'.disk (s'.phase i) := by
  cases hphase : s.phase i with
  | returning result =>
    simp only [step, hphase] at h
    rw [hphase] at hs
    cases h
    rw [put_phase]
    cases ok <;> exact hs
  | panicking =>
    rw [hphase] at hs
    exact hs.elim
  | _ =>
    simp only [step, hphase] at h
    cases h

/-- **A step leads to where it should.** -/
theorem stands_step (hhost : Updatable host (req i))
    (hs : Stands first served (wantSum host (req i)) s.disk (s.phase i))
    (hok : Undisturbed i (200, served) s e) (h : step host req s e = some s') :
    Stands first served (wantSum host (req i)) s'.disk (s'.phase i) := by
  cases e with
  | begin j located opens =>
    obtain ⟨rfl, rfl, rfl⟩ := hok
    exact stands_begin hhost hs h
  | read j n =>
    obtain rfl : j = i := hok
    exact stands_read hs h
  | sum j err =>
    obtain ⟨rfl, rfl⟩ := hok
    exact stands_sum hhost hs h
  | fetch j err =>
    obtain ⟨rfl, rfl, -⟩ := hok
    exact stands_fetch hs h
  | write j chunk =>
    obtain ⟨rfl, hchunk⟩ := hok
    exact stands_write hs hchunk h
  | fetched j err =>
    obtain ⟨rfl, rfl, hend⟩ := hok
    exact stands_fetched hs hend h
  | openTmp j err =>
    obtain ⟨rfl, rfl⟩ := hok
    exact stands_openTmp hs h
  | chmod j err =>
    obtain ⟨rfl, rfl⟩ := hok
    exact stands_chmod hs h
  | rename j err =>
    obtain ⟨rfl, rfl⟩ := hok
    exact stands_rename hs h
  | remove j ok =>
    obtain rfl : j = i := hok
    exact stands_remove hs h

/-! ## The request ends -/

/-- How far a request is from its end. -/
def left (first served : List UInt8) : Phase → ℕ
  | .idle => 12
  | .hashingCurrent _ read => if first.length ≤ read.length then 10 else 11
  | .requesting _ => 9
  | .downloading _ offset => if served.length ≤ offset then 7 else 8
  | .opening => 6
  | .hashing _ _ read => if served.length ≤ read.length then 4 else 5
  | .chmodding _ _ => 3
  | .replacing _ _ => 2
  | .returning _ | .panicking => 1
  | .done _ | .panicked => 0

/-- A step that brings the request nearer to its end. -/
def Advances (host : Host) (req : ι → AgentUpdateRequest) (i : ι) (first served : List UInt8)
    (s : State ι) : Prop :=
  ∃ e s', Undisturbed i (200, served) s e ∧ step host req s e = some s' ∧
    left first served (s'.phase i) < left first served (s.phase i)

/-- A file can be read to its end at once. -/
theorem length_le_read (data read : List UInt8) :
    data.length ≤ (read ++ (data.drop read.length).take data.length).length := by
  rw [List.length_append, List.length_take, List.length_drop]
  omega

theorem advances_hashingCurrent (hhost : Updatable host (req i)) {file : ℕ} {read : List UInt8}
    (hphase : s.phase i = .hashingCurrent file read)
    (hs : Stands first served want s.disk (.hashingCurrent file read)) :
    Advances host req i first served s := by
  obtain ⟨rfl, rfl, -⟩ := hs
  unfold Advances
  rw [hphase]
  by_cases hend : s.disk.binary.length ≤ read.length
  · refine ⟨.sum i none, s.goTo i (compareCurrent host (req i) (fileSha256 read)), ⟨rfl, rfl⟩,
      ?_, ?_⟩
    · simp only [step, hphase]
      exact if_pos hend
    · rw [goTo_phase, compareCurrent, left.eq_2, if_pos hend]
      split_ifs
      · exact Nat.zero_lt_succ _
      · obtain ⟨url, hurl⟩ := hhost.download
        rw [hurl]
        exact Nat.lt_succ_self 9
  · refine ⟨.read i s.disk.binary.length, _, rfl, by simp only [step, hphase]; rfl, ?_⟩
    rw [goTo_phase, left.eq_2, left.eq_2, if_neg hend]
    exact (if_pos (length_le_read s.disk.binary read)).trans_lt (Nat.lt_succ_self 10)

theorem advances_hashing {file changes : ℕ} {read : List UInt8}
    (hphase : s.phase i = .hashing file changes read)
    (hs : Stands first served want s.disk (.hashing file changes read)) :
    Advances host req i first served s := by
  obtain ⟨-, -, ⟨-, rfl⟩, -⟩ := hs
  unfold Advances
  rw [hphase]
  by_cases hend : (s.disk.files file).data.length ≤ read.length
  · refine ⟨.sum i none, s.goTo i (HubUpdate.compare host (req i) file changes (fileSha256 read)),
      ⟨rfl, rfl⟩, ?_, ?_⟩
    · simp only [step, hphase]
      exact if_pos hend
    · rw [goTo_phase, HubUpdate.compare, left.eq_6, if_pos hend]
      split_ifs
      · exact Nat.lt_succ_self 3
      · exact (by decide : 1 < 4)
      · exact (by decide : 1 < 4)
  · refine ⟨.read i (s.disk.files file).data.length, _, rfl, by simp only [step, hphase]; rfl, ?_⟩
    rw [goTo_phase, left.eq_6, left.eq_6, if_neg hend]
    exact (if_pos (length_le_read (s.disk.files file).data read)).trans_lt (Nat.lt_succ_self 4)

theorem advances_downloading {file offset : ℕ} (hphase : s.phase i = .downloading file offset) :
    Advances host req i first served s := by
  have heq : ∀ n ∈ downloaded (s.phase i), n = offset := by
    intro n hn
    rw [hphase] at hn
    exact (Option.some.inj hn).symm
  unfold Advances
  rw [hphase]
  by_cases hend : served.length ≤ offset
  · refine ⟨.fetched i none, s.goTo i .opening, ⟨rfl, rfl, fun n hn => ?_⟩, ?_, ?_⟩
    · exact heq n hn ▸ hend
    · simp only [step, hphase]
    · rw [goTo_phase, left.eq_4, if_pos hend]
      exact Nat.lt_succ_self 6
  · refine ⟨.write i (served.drop offset), _, ⟨rfl, fun n hn => ?_⟩,
      by simp only [step, hphase]; rfl, ?_⟩
    · exact heq n hn ▸ List.prefix_rfl
    · rw [put_phase, left.eq_4, left.eq_4, if_neg hend]
      refine (if_pos ?_).trans_lt (Nat.lt_succ_self 7)
      rw [List.length_drop]
      omega

/-- **A request that has not ended can go on.** -/
theorem advances (hhost : Updatable host (req i))
    (hs : Stands first served (wantSum host (req i)) s.disk (s.phase i))
    (hrunning : ∀ result, s.phase i ≠ .done result) : Advances host req i first served s := by
  cases hphase : s.phase i with
  | idle =>
    refine ⟨.begin i none true, s.goTo i (.hashingCurrent s.disk.exe []), ⟨rfl, rfl, rfl⟩, ?_, ?_⟩
    · simp only [step, hphase, hhost.begin]
    · rw [goTo_phase, hphase, left.eq_2]
      split_ifs
      · exact (by decide : 10 < 12)
      · exact Nat.lt_succ_self 11
  | hashingCurrent file read => exact advances_hashingCurrent hhost hphase (hphase ▸ hs)
  | requesting url =>
    refine ⟨.fetch i none, _, ⟨rfl, rfl, rfl⟩, by simp only [step, hphase]; rfl, ?_⟩
    rw [put_phase, hphase, left.eq_4]
    split_ifs
    · exact (by decide : 7 < 9)
    · exact Nat.lt_succ_self 8
  | downloading file offset => exact advances_downloading hphase
  | opening =>
    rw [hphase] at hs
    obtain ⟨-, -, file, htmp, -⟩ := hs
    refine ⟨.openTmp i none, _, ⟨rfl, rfl⟩, by simp only [step, hphase, htmp]; rfl, ?_⟩
    rw [goTo_phase, hphase, left.eq_6]
    split_ifs
    · exact (by decide : 4 < 6)
    · exact Nat.lt_succ_self 5
  | hashing file changes read => exact advances_hashing hphase (hphase ▸ hs)
  | chmodding file changes =>
    rw [hphase] at hs
    refine ⟨.chmod i none, s.goTo i (.replacing file changes), ⟨rfl, rfl⟩, ?_, ?_⟩
    · simp only [step, hphase, hs.2.2.1.1]
    · rw [goTo_phase, hphase]
      exact Nat.lt_succ_self 2
  | replacing file changes =>
    rw [hphase] at hs
    have htmp := hs.2.2.1.1
    have hsome : ∃ s', step host req s (.rename i none) = some s' ∧
        s'.phase i = .returning (.ok ⟨true, "updated, restarting"⟩) := by
      simp only [step, hphase]
      split
      · exact ⟨_, rfl, by simp only [put_phase]⟩
      · rename_i hnone
        cases htmp.symm.trans hnone
    obtain ⟨s', hstep, hphase'⟩ := hsome
    refine ⟨.rename i none, s', ⟨rfl, rfl⟩, hstep, ?_⟩
    rw [hphase', hphase]
    exact Nat.lt_succ_self 1
  | returning result =>
    refine ⟨.remove i true, _, rfl, by simp only [step, hphase]; rfl, ?_⟩
    rw [put_phase, hphase]
    exact Nat.zero_lt_one
  | panicking =>
    rw [hphase] at hs
    exact hs.elim
  | done result => exact absurd hphase (hrunning result)
  | panicked =>
    rw [hphase] at hs
    exact hs.elim

/-- **A request can be brought to its end.** -/
theorem exists_done (hhost : Updatable host (req i))
    (hs : Stands first served (wantSum host (req i)) s.disk (s.phase i)) :
    ∃ more t result, Along (step host req) (Undisturbed i (200, served)) s more ∧
      run (step host req) s more = some t ∧ t.phase i = .done result := by
  induction hleft : left first served (s.phase i) using Nat.strong_induction_on generalizing s with
  | _ n ih =>
    by_cases hdone : ∃ result, s.phase i = .done result
    · obtain ⟨result, hresult⟩ := hdone
      exact ⟨[], s, result, trivial, rfl, hresult⟩
    · obtain ⟨e, s', hok, hstep, hless⟩ := advances hhost hs (not_exists.mp hdone)
      obtain ⟨more, t, result, hmore, hrun, hresult⟩ :=
        ih _ (hleft ▸ hless) (stands_step hhost hs hok hstep) rfl
      exact ⟨e :: more, t, result, hmore.cons hok hstep, run_cons_eq_some.mpr ⟨s', hstep, hrun⟩,
        hresult⟩

/-- **The staged binary gets to the agent.**  The hub asks an agent to update while `staged` is
staged for its architecture, and serves `served` by the time of the download.  In every run in
which nothing fails and nothing comes between, the request has not crashed, it can be brought to its
end, and it ends with the agent up to date, updated to what was served, or refusing that for its
checksum and left as it was. -/
theorem update_outcome (req : ι → AgentUpdateRequest) (i : ι) {appURL : Text}
    {agents agents' : Agents} {staged : List UInt8}
    (harch : host.arch ∈ allowedAgentArch) (hgoos : host.goos ≠ "windows".toList)
    (hurl : host.hubURL ≠ [] ∨ appURL ≠ []) (hstaged : agents host.arch = some staged)
    (hreq : updateRequest appURL agents = some (req i))
    (hserved : serveAgentBinary agents' host.arch = (200, served)) {events : List (Event ι)}
    {t : State ι} (hidle : s.phase i = .idle)
    (hok : Along (step host req) (Undisturbed i (serveAgentBinary agents' host.arch)) s events)
    (hrun : run (step host req) s events = some t) :
    (∀ result, t.phase i = .done result →
        Outcome s.disk.binary served (fileSha256 staged) result t.disk.binary) ∧
      t.phase i ≠ .panicked ∧
      ∃ more u result,
        Along (step host req) (Undisturbed i (serveAgentBinary agents' host.arch)) t more ∧
          run (step host req) t more = some u ∧ u.phase i = .done result := by
  rw [hserved] at hok ⊢
  have hrequest : req i = ⟨appURL, stagedAgentChecksums agents⟩ := by
    unfold updateRequest at hreq
    dsimp only at hreq
    split_ifs at hreq
    exact (Option.some.inj hreq).symm
  have hwant : wantSum host (req i) = fileSha256 staged := by
    rw [wantSum, hrequest, lookup_stagedAgentChecksums harch, hstaged]
    rfl
  have hhost : Updatable host (req i) := by
    refine ⟨hgoos, hrequest ▸ hurl, ?_⟩
    rw [hwant, fileSha256, Sha256.length_encodeToString, Sha256.length_sum256]
    decide
  have hstands : Stands s.disk.binary served (wantSum host (req i)) t.disk (t.phase i) :=
    inv_of_along
      (I := fun t => Stands s.disk.binary served (wantSum host (req i)) t.disk (t.phase i))
      (fun hs hok hstep => stands_step hhost hs hok hstep) (hidle.symm ▸ rfl) hok hrun
  refine ⟨fun result hresult => ?_, fun hpanic => ?_, exists_done hhost hstands⟩
  · rw [hresult, hwant] at hstands
    exact hstands
  · rw [hpanic] at hstands
    exact hstands

end Request

instance (i : ℕ) (answer : ℕ × List UInt8) (s : State ℕ) (e : Event ℕ) :
    Decidable (Undisturbed i answer s e) := by
  unfold Undisturbed
  split <;> infer_instance

/-- The bytes 3, 4, 5 are staged, and installed over 1, 2. -/
def exampleAgents : Agents := fun arch => if arch = "amd64".toList then some [3, 4, 5] else none

/-- The request downloads them, hashes them and replaces the executable. -/
def install : List (Event ℕ) := verify 0 ++ [.chmod 0 none, .rename 0 none, .remove 0 true]

theorem update_outcome_installed :
    ∃ t, run (step exampleHost fun _ => staged exampleSum) (.start exampleDisk) install = some t ∧
      ∀ result, t.phase 0 = .done result →
        Outcome [1, 2] [3, 4, 5] (fileSha256 [3, 4, 5]) result t.disk.binary := by
  have hsome : (run (step exampleHost fun _ => staged exampleSum) (.start exampleDisk)
      install).isSome := by decide +kernel
  obtain ⟨t, ht⟩ := Option.isSome_iff_exists.mp hsome
  have hreq : updateRequest "https://hub".toList exampleAgents = some (staged exampleSum) := by
    decide +kernel
  have hserved : serveAgentBinary exampleAgents exampleHost.arch = (200, [3, 4, 5]) := by decide
  have hok : Along (step exampleHost fun _ => staged exampleSum)
      (Undisturbed 0 (serveAgentBinary exampleAgents exampleHost.arch)) (.start exampleDisk)
        install := by decide +kernel
  have hstaged : exampleAgents exampleHost.arch = some [3, 4, 5] := rfl
  exact ⟨t, ht, (update_outcome (fun _ => staged exampleSum) 0 (by decide) (by decide)
    (.inr (by decide)) hstaged hreq hserved rfl hok ht).1⟩

end StagedAgents

end Beszel
