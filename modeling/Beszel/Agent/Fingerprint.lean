import Beszel.Common.Text
import Beszel.Hub.StableIds
import Beszel.Machinery.Run
import Beszel.Machinery.Sha256

/-!
# Agent/Fingerprint — by what the hub knows an agent again

    host ──generate──▸ sha256 ──hex──▸ fingerprint ──save──▸ file ──read──▸ fingerprint

`agent/fingerprint.go`.  The agent and the command line read and write one file in the data
directory.  What the host says about itself may change from one start to the next, and a write may
end after some of the text; every sequence of starts and resets is a run.
-/

namespace Beszel

open Machinery

namespace Agent

namespace Fingerprint

/-! ## Making one -/

/-- `knownBadUUID`. -/
def knownBadUUID : String := "03000200-0400-0500-0006-000700080009"

/-- What the host says about itself: `host.HostID`, `os.Hostname`, and the model of the first CPU
that `cpu.Info` gives. -/
structure Host where
  hostID : Option String
  hostname : Option String
  cpuModel : Option String

/-- What is hashed where the host has no good id. -/
def fallback (host : Host) (hostname cpuModel : String) : String :=
  (if hostname = "" then host.hostname.getD "" else hostname) ++
    if cpuModel = "" then host.cpuModel.getD "" else cpuModel

/-- `generateFingerprint`. -/
def generateFingerprint (host : Host) (hostname cpuModel : String) : String :=
  let fingerprint := match host.hostID with
    | none => fallback host hostname cpuModel
    | some id => if id = "" ∨ id = knownBadUUID then fallback host hostname cpuModel else id
  String.ofList
    (Sha256.encodeToString ((Sha256.sum256 (StableIds.bytesOf fingerprint)).take 24))

/-! ## The file -/

/-- How `os.WriteFile` ends: the file cannot be opened, it has only the first characters, or it has
the text. -/
inductive Write
  | refused
  | cut (n : ℕ)
  | whole

/-- `SaveFingerprint`: the file after it. -/
def saveFingerprint (write : Write) (fingerprint : String) (file : Option String) : Option String :=
  match write with
  | .refused => file
  | .cut n => some (String.ofList (fingerprint.toList.take n))
  | .whole => some fingerprint

/-- `readFingerprint`; `readable` is whether a file that is there can be read. -/
def readFingerprint (readable : Bool) (file : Option String) : Option String :=
  match file with
  | none => none
  | some fp =>
    if readable then
      let s := GoText.trimSpace fp
      if s = "" then none else some s
    else none

/-- **`GetFingerprint`**: the fingerprint, and the file after it. -/
def getFingerprint (dataDir hostname cpuModel : String) (host : Host) (readable : Bool)
    (write : Write) (file : Option String) : String × Option String :=
  match if dataDir ≠ "" then readFingerprint readable file else none with
  | some fp => (fp, file)
  | none =>
    let fp := generateFingerprint host hostname cpuModel
    (fp, if dataDir ≠ "" then saveFingerprint write fp file else file)

/-- `DeleteFingerprint`: the file after it, and whether there is no error. -/
def deleteFingerprint (removable : Bool) (file : Option String) : Option String × Bool :=
  match file with
  | none => (none, true)
  | some fp => if removable then (none, true) else (some fp, false)

/-! ## Runs -/

/-- The file in each data directory, and the fingerprints that were given with the directory that
they were asked for, newest first. -/
structure State where
  files : String → Option String
  answers : List (String × String)

/-- A start of the agent or a view of the fingerprint, and a reset. -/
inductive Event
  | get (dataDir hostname cpuModel : String) (host : Host) (readable : Bool) (write : Write)
  | reset (dataDir : String) (removable : Bool)

/-- **One step.** -/
def step (s : State) : Event → State
  | .get dataDir hostname cpuModel host readable write =>
    let got := getFingerprint dataDir hostname cpuModel host readable write (s.files dataDir)
    ⟨Function.update s.files dataDir got.2, (dataDir, got.1) :: s.answers⟩
  | .reset dataDir removable =>
    { s with files :=
        Function.update s.files dataDir (deleteFingerprint removable (s.files dataDir)).1 }

/-- The file of a directory is neither reset nor found unreadable. -/
def Event.Keeps (dir : String) : Event → Prop
  | .get dataDir _ _ _ readable _ => dataDir = dir → readable = true
  | .reset dataDir _ => dataDir ≠ dir

/-! ## What is saved is read -/

theorem isSpace_digitChar : ∀ n < 16, GoText.isSpace (Nat.digitChar n) = false := by decide

theorem isSpace_encodeToString (data : List UInt8) :
    ∀ c ∈ Sha256.encodeToString data, GoText.isSpace c = false := by
  intro c hc
  obtain ⟨b, -, hb⟩ := List.mem_flatMap.mp hc
  have hlt : b.toNat < 256 := b.toNat_lt
  simp only [Sha256.hexByte, List.mem_cons, List.not_mem_nil, or_false] at hb
  rcases hb with rfl | rfl <;> exact isSpace_digitChar _ (by omega)

/-- **A text without spaces is read as it is.** -/
theorem readFingerprint_word {word : List Char} (hword : ∀ c ∈ word, GoText.isSpace c = false)
    (hne : word ≠ []) :
    readFingerprint true (some (String.ofList word)) = some (String.ofList word) := by
  have htrim := GoText.trimSpace_word (GoText.isTrimmed_of_forall hword)
  have hempty : String.ofList word ≠ "" := by
    intro hnil
    have hchars := congrArg String.toList hnil
    rw [String.toList_ofList] at hchars
    exact hne hchars
  unfold readFingerprint
  dsimp only
  rw [if_pos rfl, htrim, if_neg hempty]

theorem exists_digits (host : Host) (hostname cpuModel : String) :
    ∃ digits : List Char, generateFingerprint host hostname cpuModel = String.ofList digits ∧
      digits.length = 48 ∧ ∀ c ∈ digits, GoText.isSpace c = false := by
  refine ⟨_, rfl, ?_, isSpace_encodeToString _⟩
  rw [Sha256.length_encodeToString, List.length_take, Sha256.length_sum256]
  rfl

/-- **A fingerprint that is saved is read again.** -/
theorem readFingerprint_generate (host : Host) (hostname cpuModel : String) :
    readFingerprint true (some (generateFingerprint host hostname cpuModel)) =
      some (generateFingerprint host hostname cpuModel) := by
  obtain ⟨digits, heq, hlength, hdigits⟩ := exists_digits host hostname cpuModel
  rw [heq]
  exact readFingerprint_word hdigits (List.ne_nil_of_length_pos (by omega))

/-- Of one that was cut, the part that was saved is. -/
theorem readFingerprint_cut (host : Host) (hostname cpuModel : String) {n : ℕ} (hn : 0 < n) :
    readFingerprint true (some (String.ofList
        ((generateFingerprint host hostname cpuModel).toList.take n))) =
      some (String.ofList ((generateFingerprint host hostname cpuModel).toList.take n)) := by
  obtain ⟨digits, heq, hlength, hdigits⟩ := exists_digits host hostname cpuModel
  rw [heq, String.toList_ofList]
  refine readFingerprint_word (fun c hc => hdigits c (List.mem_of_mem_take hc))
    (List.ne_nil_of_length_pos ?_)
  rw [List.length_take]
  omega

section Runs

variable {s : State} {dir fp : String} {readable : Bool} {events : List Event}

/-- What the file of a directory gives. -/
def reading (s : State) (dir : String) : Option String := readFingerprint true (s.files dir)

theorem getFingerprint_of_some (hostname cpuModel : String) (host : Host) (write : Write)
    (hdir : dir ≠ "") {file : Option String} (hread : readFingerprint readable file = some fp) :
    getFingerprint dir hostname cpuModel host readable write file = (fp, file) := by
  rw [getFingerprint, if_pos hdir, hread]

theorem getFingerprint_of_none (hostname cpuModel : String) (host : Host) (write : Write)
    (hdir : dir ≠ "") {file : Option String} (hread : readFingerprint readable file = none) :
    getFingerprint dir hostname cpuModel host readable write file =
      (generateFingerprint host hostname cpuModel,
        saveFingerprint write (generateFingerprint host hostname cpuModel) file) := by
  rw [getFingerprint, if_pos hdir, hread]
  dsimp only
  rw [if_pos hdir]

/-- **What the file gives is kept and given**, by everything that leaves the file alone. -/
theorem step_of_reading (hdir : dir ≠ "") {e : Event} (hread : reading s dir = some fp)
    (he : e.Keeps dir) :
    reading (step s e) dir = some fp ∧
      ∃ new, (step s e).answers = new ++ s.answers ∧ ∀ a ∈ new, a.1 = dir → a.2 = fp := by
  cases e with
  | get dataDir hostname cpuModel host readable write =>
    by_cases hsame : dataDir = dir
    · subst hsame
      obtain rfl : readable = true := he rfl
      have hgot := getFingerprint_of_some hostname cpuModel host write hdir hread
      unfold reading step
      dsimp only
      rw [hgot, Function.update_self]
      exact ⟨hread, [(dataDir, fp)], rfl,
        List.forall_mem_singleton.mpr fun _ => rfl⟩
    · unfold reading step
      dsimp only
      rw [Function.update_of_ne (Ne.symm hsame)]
      exact ⟨hread, [_], rfl, List.forall_mem_singleton.mpr fun h => absurd h hsame⟩
  | reset dataDir removable =>
    unfold reading step
    dsimp only
    rw [Function.update_of_ne (Ne.symm he)]
    exact ⟨hread, [], rfl, fun _ h => nomatch h⟩

/-- **And by every run that does.** -/
theorem foldl_of_reading (hdir : dir ≠ "") (hread : reading s dir = some fp)
    (hkeeps : ∀ e ∈ events, e.Keeps dir) :
    ∃ new, (events.foldl step s).answers = new ++ s.answers ∧
      ∀ a ∈ new, a.1 = dir → a.2 = fp := by
  induction events generalizing s with
  | nil => exact ⟨[], rfl, fun _ h => nomatch h⟩
  | cons e events ih =>
    obtain ⟨he, hkeeps⟩ := List.forall_mem_cons.mp hkeeps
    obtain ⟨hread, first, hfirst, hgiven⟩ := step_of_reading hdir hread he
    obtain ⟨new, hnew, hall⟩ := ih hread hkeeps
    refine ⟨new ++ first, ?_, List.forall_mem_append.mpr ⟨hall, hgiven⟩⟩
    rw [List.foldl_cons, hnew, hfirst, List.append_assoc]

/-- Answers are only added. -/
theorem exists_answers (s : State) (events : List Event) :
    ∃ new, (events.foldl step s).answers = new ++ s.answers := by
  induction events generalizing s with
  | nil => exact ⟨[], rfl⟩
  | cons e events ih =>
    obtain ⟨new, hnew⟩ := ih (step s e)
    rw [List.foldl_cons, hnew]
    cases e with
    | get dataDir => exact ⟨new ++ [_], (List.append_assoc new [_] s.answers).symm⟩
    | reset => exact ⟨new, rfl⟩

theorem reading_of_read (hread : readFingerprint readable (s.files dir) = some fp) :
    reading s dir = some fp := by
  cases readable with
  | true => exact hread
  | false =>
    unfold readFingerprint at hread
    split at hread <;> cases hread

/-- **An agent is known again.**  After a start that read a fingerprint or could save the one it
made, every later start in the directory gives the same, whatever the host says by then, until the
file is reset or cannot be read; and after one whose save was cut, every later start gives the part
that was saved. -/
theorem fingerprint_kept (hostname cpuModel : String) (host : Host) (readable : Bool)
    (write : Write) (hdir : dir ≠ "") (hkeeps : ∀ e ∈ events, e.Keeps dir) :
    ∃ fp new, ((Event.get dir hostname cpuModel host readable write :: events).foldl step
        s).answers = new ++ (dir, fp) :: s.answers ∧
      ((readFingerprint readable (s.files dir)).isSome ∨ write = .whole →
        ∀ a ∈ new, a.1 = dir → a.2 = fp) ∧
      (readFingerprint readable (s.files dir) = none → ∀ n, 0 < n → write = .cut n →
        ∀ a ∈ new, a.1 = dir → a.2 = String.ofList (fp.toList.take n)) := by
  rw [List.foldl_cons]
  cases hread : readFingerprint readable (s.files dir) with
  | some fp =>
    have hstep : step s (.get dir hostname cpuModel host readable write) =
        ⟨s.files, (dir, fp) :: s.answers⟩ := by
      rw [step, getFingerprint_of_some hostname cpuModel host write hdir hread,
        Function.update_eq_self]
    obtain ⟨new, hnew, hall⟩ := foldl_of_reading hdir
      (reading_of_read hread : reading ⟨s.files, (dir, fp) :: s.answers⟩ dir = some fp) hkeeps
    exact ⟨fp, new, hstep ▸ hnew, fun _ => hall, nofun⟩
  | none =>
    let fp := generateFingerprint host hostname cpuModel
    let t : State := ⟨Function.update s.files dir (saveFingerprint write fp (s.files dir)),
      (dir, fp) :: s.answers⟩
    have hstep : step s (.get dir hostname cpuModel host readable write) = t := by
      rw [step, getFingerprint_of_none hostname cpuModel host write hdir hread]
    have hsaved : reading t dir = readFingerprint true (saveFingerprint write fp (s.files dir)) :=
      congrArg (readFingerprint true) (Function.update_self ..)
    obtain ⟨new, hnew⟩ := exists_answers t events
    refine ⟨fp, new, hstep ▸ hnew, ?_, ?_⟩
    · rintro (hsome | rfl)
      · exact absurd hsome Bool.false_ne_true
      · obtain ⟨_, hnew', hall⟩ := foldl_of_reading hdir
          (hsaved.trans (readFingerprint_generate host hostname cpuModel)) hkeeps
        exact List.append_cancel_right (hnew.symm.trans hnew') ▸ hall
    · rintro - n hn rfl
      obtain ⟨_, hnew', hall⟩ := foldl_of_reading hdir
        (hsaved.trans (readFingerprint_cut host hostname cpuModel hn)) hkeeps
      exact List.append_cancel_right (hnew.symm.trans hnew') ▸ hall

/-- The name of the host changes between two starts. -/
theorem fingerprint_kept_renamed :
    ∃ fp new, ([.get "/data" "a" "x" ⟨none, none, none⟩ true .whole,
        .get "/data" "b" "x" ⟨none, none, none⟩ true .whole].foldl step
          ⟨fun _ => none, []⟩).answers = new ++ [("/data", fp)] ∧
      ∀ a ∈ new, a.1 = "/data" → a.2 = fp := by
  obtain ⟨fp, new, hnew, hall, -⟩ := @fingerprint_kept ⟨fun _ => none, []⟩ "/data"
    [.get "/data" "b" "x" ⟨none, none, none⟩ true .whole] "a" "x" ⟨none, none, none⟩ true .whole
    (by decide) (List.forall_mem_singleton.mpr fun _ => rfl)
  exact ⟨fp, new, hnew, hall (.inr rfl)⟩

end Runs

end Fingerprint

end Agent

end Beszel
