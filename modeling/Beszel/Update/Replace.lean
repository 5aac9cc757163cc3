import Beszel.Common.Text
import Mathlib.Logic.Function.Basic
import Mathlib.Tactic.SplitIfs

/-!
# Update/Replace — a new executable in place of the old one

    executable ──rename──▸ .old ──(revert)──▸ executable
    extracted ──rename, or copy──▸ executable          ⋯ then .old is removed

The end of `update` in `internal/ghupdate/ghupdate.go`, with what it defers.  How each operation on
a file comes out is given; what it does to the files follows, a copy that stops midway included.
-/

namespace Beszel

namespace Update

/-! ## Files -/

/-- The files that are touched: the executable, its backup, and the extracted one, which may have
the extension `.exe`. -/
inductive FileName
  | executable
  | old
  | extracted
  | extractedExe
  deriving DecidableEq, Repr

abbrev Contents := List UInt8

abbrev Files := FileName → Option Contents

/-- How a copy comes out; `copying` writes so many bytes, and fails. -/
inductive CopyOutcome
  | done
  | opening (err : String)
  | creating (err : String)
  | copying (written : ℕ) (err : String)
  | statting (err : String)
  | chmodding (err : String)
  deriving DecidableEq, Repr

/-- **How the operations come out**: each with the error that it fails with, if it does. -/
structure Outcomes where
  executable : Option String
  statExtracted : Option String
  statExtractedExe : Option String
  renameOld : Option String
  renameNew : Option String
  copy : CopyOutcome
  revert : Option String
  removeOld : Option String
  removeAll : Option String
  deriving DecidableEq, Repr

/-- What the system says of a file that there is not. -/
def notExist : String := "no such file or directory"

/-- `os.Stat`. -/
def stat (files : Files) (name : FileName) (outcome : Option String) : Option String :=
  if files name = none then some notExist else outcome

/-- `os.Rename`. -/
def rename (files : Files) (src dst : FileName) (outcome : Option String) :
    Files × Option String :=
  if files src = none then (files, some notExist)
  else
    match outcome with
    | some err => (files, some err)
    | none => (Function.update (Function.update files dst (files src)) src none, none)

/-- `os.Remove`, whose error is ignored. -/
def remove (files : Files) (name : FileName) (outcome : Option String) : Files :=
  if outcome = none then Function.update files name none else files

/-- `copyFile`. -/
def copyFile (files : Files) (src dst : FileName) (outcome : CopyOutcome) :
    Files × Option String :=
  match files src with
  | none => (files, some notExist)
  | some contents =>
    match outcome with
    | .opening err => (files, some err)
    | .creating err => (files, some err)
    | .copying written err =>
      (Function.update files dst (some (contents.take written)), some err)
    | .statting err => (Function.update files dst (some contents), some err)
    | .chmodding err => (Function.update files dst (some contents), some err)
    | .done => (Function.update files dst (some contents), none)

/-! ## The replacement -/

/-- `isCrossDeviceError`. -/
def isCrossDeviceError (err : String) : Bool :=
  GoText.contains err "cross-device" || GoText.contains err "EXDEV"

/-- The extracted executable, without or with the extension. -/
def newExec (io : Outcomes) (files : Files) : Except String FileName :=
  match stat files .extracted io.statExtracted with
  | none => .ok .extracted
  | some err =>
    match stat files .extractedExe io.statExtractedExe with
    | none => .ok .extractedExe
    | some fallbackErr =>
      .error <| "the executable in the extracted path is missing or it is inaccessible: " ++
        s!"{err}, {fallbackErr}"

/-- `tryToRevertExecChanges`. -/
def tryToRevert (io : Outcomes) (files : Files) : Files :=
  (rename files .old .executable io.revert).1

/-- The extracted executable takes the place of the current one, which is renamed. -/
def takePlace (io : Outcomes) (files : Files) (name : FileName) : Files × Option String :=
  match rename files name .executable io.renameNew with
  | (files, none) => (files, none)
  | (files, some err) =>
    if isCrossDeviceError err then
      match copyFile files name .executable io.copy with
      | (files, none) => (files, none)
      | (files, some err) =>
        (tryToRevert io files, some s!"failed replacing the executable: {err}")
    else (tryToRevert io files, some s!"failed replacing the executable: {err}")

/-- …once it has been. -/
def replaceWith (io : Outcomes) (files : Files) (name : FileName) : Files × Option String :=
  match rename files .executable .old io.renameOld with
  | (files, some err) => (files, some s!"failed to rename the current executable: {err}")
  | (files, none) => takePlace io files name

/-- `update`, once the archive is extracted, and what it has deferred. -/
def replaceExecutable (io : Outcomes) (files : Files) : Files × Option String :=
  let removeAll (files : Files) : Files :=
    remove (remove files .extracted io.removeAll) .extractedExe io.removeAll
  match io.executable with
  | some err => (removeAll files, some err)
  | none =>
    let (files, err) :=
      match newExec io files with
      | .error err => (files, some err)
      | .ok name => replaceWith io files name
    (removeAll (remove files .old io.removeOld), err)

/-! ## What is kept -/

/-- **The files before**: the executable is there. -/
structure Installed where
  files : Files
  binary : Contents
  executable_eq : files .executable = some binary

/-- **The executable is not lost**: the old one or the new one is in its place, or the old one is in
the backup. -/
def Kept (io : Outcomes) (before : Installed) (after : Files) : Prop :=
  after .executable = some before.binary ∨
    (∃ name, newExec io before.files = .ok name ∧ after .executable = before.files name) ∨
    after .old = some before.binary

/-- What a failed copy leaves is neither of the two. -/
def CopyOutcome.Breaks (outcome : CopyOutcome) (old new : Contents) : Prop :=
  match outcome with
  | .opening _ => True
  | .creating _ => True
  | .copying written _ => new.take written ≠ new ∧ new.take written ≠ old
  | _ => False

/-- **The operations that lose it**: the executable is renamed, the new one does not take its place,
it is not renamed back, and the backup is removed. -/
def Loses (io : Outcomes) (before : Installed) : Prop :=
  io.executable = none ∧ io.renameOld = none ∧
    (∃ name new err, newExec io before.files = .ok name ∧ before.files name = some new ∧
      io.renameNew = some err ∧
        (isCrossDeviceError err = true → io.copy.Breaks before.binary new)) ∧
    io.revert ≠ none ∧ io.removeOld = none

variable {io : Outcomes} {before : Installed} {name : FileName} {files : Files}
  {old new : Contents}

/-! ## The operations -/

theorem remove_of_ne {n : FileName} (hne : n ≠ name) (outcome : Option String) :
    remove files name outcome n = files n := by
  unfold remove
  split_ifs
  · exact Function.update_of_ne hne _ _
  · rfl

theorem remove_self (outcome : Option String) :
    remove files name outcome name = if outcome = none then none else files name := by
  unfold remove
  split_ifs
  · exact Function.update_self _ _ _
  · rfl

theorem stat_eq_none {outcome : Option String} (h : stat files name outcome = none) :
    ∃ contents, files name = some contents := by
  unfold stat at h
  split_ifs at h with hfile
  exact Option.ne_none_iff_exists'.mp hfile

/-- The executable that is found is one of the extracted, and is there. -/
theorem newExec_cases (h : newExec io files = .ok name) :
    (name ≠ .executable ∧ name ≠ .old) ∧ ∃ new, files name = some new := by
  unfold newExec at h
  cases hstat : stat files .extracted io.statExtracted with
  | none =>
    rw [hstat] at h
    obtain rfl : FileName.extracted = name := Except.ok.inj h
    exact ⟨⟨by decide, by decide⟩, stat_eq_none hstat⟩
  | some err =>
    cases hstatExe : stat files .extractedExe io.statExtractedExe with
    | none =>
      rw [hstat, hstatExe] at h
      obtain rfl : FileName.extractedExe = name := Except.ok.inj h
      exact ⟨⟨by decide, by decide⟩, stat_eq_none hstatExe⟩
    | some fallbackErr =>
      rw [hstat, hstatExe] at h
      cases h

/-- A rename that comes out well moves the file. -/
theorem rename_none {src dst : FileName} {contents : Contents} (hsrc : files src = some contents) :
    rename files src dst none =
      (Function.update (Function.update files dst (some contents)) src none, none) := by
  unfold rename
  rw [hsrc, if_neg (Option.some_ne_none _)]

/-- One that fails changes nothing. -/
theorem rename_some {src dst : FileName} {contents : Contents} (hsrc : files src = some contents)
    (err : String) : rename files src dst (some err) = (files, some err) := by
  unfold rename
  rw [hsrc, if_neg (Option.some_ne_none _)]

/-- What is at the path of the executable after the attempt to rename it back. -/
theorem tryToRevert_executable (hold : files .old = some old) :
    tryToRevert io files .executable =
      if io.revert = none then some old else files .executable := by
  unfold tryToRevert
  cases hrevert : io.revert with
  | none => rw [rename_none hold]; rfl
  | some err => rw [rename_some hold]; rfl

/-- …and in the backup. -/
theorem tryToRevert_old (hold : files .old = some old) (hrevert : io.revert ≠ none) :
    tryToRevert io files .old = some old := by
  obtain ⟨err, herr⟩ := Option.ne_none_iff_exists'.mp hrevert
  unfold tryToRevert
  rw [herr, rename_some hold]
  exact hold

/-- A copy leaves the backup alone. -/
theorem copyFile_old (hnew : files name = some new) (outcome : CopyOutcome) :
    (copyFile files name .executable outcome).1 .old = files .old := by
  unfold copyFile
  rw [hnew]
  cases outcome <;> rfl

/-- A copy that breaks fails, and leaves neither executable. -/
theorem copyFile_of_breaks (hexec : files .executable = none) (hnew : files name = some new)
    {outcome : CopyOutcome} (h : outcome.Breaks old new) :
    ∃ err, (copyFile files name .executable outcome).2 = some err ∧
      (copyFile files name .executable outcome).1 .executable ∉ [some old, some new] := by
  have hnone : files .executable ∉ [some old, some new] := by simp [hexec]
  unfold copyFile
  rw [hnew]
  cases outcome with
  | opening err => exact ⟨err, rfl, hnone⟩
  | creating err => exact ⟨err, rfl, hnone⟩
  | copying written err =>
    refine ⟨err, rfl, ?_⟩
    have hpart : new.take written ≠ new ∧ new.take written ≠ old := h
    simpa [and_comm] using hpart
  | statting err => exact h.elim
  | chmodding err => exact h.elim
  | done => exact h.elim

/-- One that does not leaves one of them. -/
theorem copyFile_of_not_breaks (hnew : files name = some new) {outcome : CopyOutcome}
    (h : ¬outcome.Breaks old new) :
    (copyFile files name .executable outcome).1 .executable ∈ [some old, some new] := by
  have hmem : some new ∈ [some old, some new] := List.mem_cons_of_mem _ List.mem_cons_self
  unfold copyFile
  rw [hnew]
  cases outcome with
  | opening err => exact absurd trivial h
  | creating err => exact absurd trivial h
  | copying written err =>
    have hpart : ¬(new.take written ≠ new ∧ new.take written ≠ old) := h
    change some (new.take written) ∈ [some old, some new]
    by_cases hwhole : new.take written = new
    · rwa [hwhole]
    · rw [not_not.mp (not_and.mp hpart hwhole)]
      exact List.mem_cons_self
  | statting err => exact hmem
  | chmodding err => exact hmem
  | done => exact hmem

/-! ## The replacement, case by case -/

section TakePlace

variable (hname : name ≠ .executable ∧ name ≠ .old) (hexec : files .executable = none)
  (hold : files .old = some old) (hnew : files name = some new)

include hnew

include hname in
/-- A rename that comes out well puts the new executable in its place. -/
theorem takePlace_of_none (h : io.renameNew = none) :
    (takePlace io files name).1 .executable = some new := by
  unfold takePlace
  rw [h, rename_none hnew]
  exact (Function.update_of_ne hname.1.symm _ _).trans (Function.update_self _ _ _)

include hold in
/-- A copy that does not break leaves one of the two there. -/
theorem takePlace_of_not_breaks {err : String} (h : io.renameNew = some err)
    (hcross : isCrossDeviceError err = true) (hcopy : ¬io.copy.Breaks old new) :
    (takePlace io files name).1 .executable ∈ [some old, some new] := by
  have hleft := copyFile_of_not_breaks hnew hcopy
  have hbackup := (copyFile_old hnew io.copy).trans hold
  unfold takePlace
  rw [h, rename_some hnew]
  change (if isCrossDeviceError err = true then _ else _ : Files × Option String).1 _ ∈ _
  rw [if_pos hcross]
  rcases hcopied : copyFile files name .executable io.copy with ⟨left, _ | copyErr⟩
  · rwa [hcopied] at hleft
  · rw [hcopied] at hleft hbackup
    change tryToRevert io left .executable ∈ _
    rw [tryToRevert_executable hbackup]
    split_ifs
    · exact List.mem_cons_self
    · exact hleft

include hexec hold in
/-- **Otherwise the executable is there again only if the backup could be renamed back.** -/
theorem takePlace_of_breaks {err : String} (h : io.renameNew = some err)
    (hbreaks : isCrossDeviceError err = true → io.copy.Breaks old new) :
    ∃ left : Files, left .old = some old ∧ left .executable ∉ [some old, some new] ∧
      (takePlace io files name).1 = tryToRevert io left := by
  unfold takePlace
  rw [h, rename_some hnew]
  by_cases hcross : isCrossDeviceError err = true
  · obtain ⟨copyErr, hcopyErr, hleft⟩ := copyFile_of_breaks hexec hnew (hbreaks hcross)
    refine ⟨_, (copyFile_old hnew io.copy).trans hold, hleft, ?_⟩
    dsimp only
    rw [if_pos hcross]
    rcases hcopied : copyFile files name .executable io.copy with ⟨left, _ | copyErr⟩
    · rw [hcopied] at hcopyErr
      cases hcopyErr
    · rfl
  · refine ⟨files, hold, by simp [hexec], ?_⟩
    dsimp only
    rw [if_neg hcross]

end TakePlace

/-! ## What is kept -/

/-- What is deferred does not touch the executable, and removes the backup. -/
theorem replaceExecutable_eq (hexec : io.executable = none)
    (hname : newExec io before.files = .ok name) :
    (replaceExecutable io before.files).1 .executable =
        (replaceWith io before.files name).1 .executable ∧
      (replaceExecutable io before.files).1 .old =
        if io.removeOld = none then none else (replaceWith io before.files name).1 .old := by
  unfold replaceExecutable
  rw [hexec, hname]
  dsimp only
  refine ⟨?_, ?_⟩
  · rw [remove_of_ne (by decide), remove_of_ne (by decide), remove_of_ne (by decide)]
  · rw [remove_of_ne (by decide), remove_of_ne (by decide), remove_self]

/-- Without a new executable, the old one stays. -/
theorem replaceExecutable_of_error {err : String}
    (h : io.executable = some err ∨ newExec io before.files = .error err) :
    (replaceExecutable io before.files).1 .executable = some before.binary := by
  unfold replaceExecutable
  cases hexec : io.executable with
  | some err =>
    dsimp only
    rw [remove_of_ne (by decide), remove_of_ne (by decide), before.executable_eq]
  | none =>
    rw [hexec, or_iff_right (Option.some_ne_none err).symm] at h
    rw [h]
    dsimp only
    rw [remove_of_ne (by decide), remove_of_ne (by decide), remove_of_ne (by decide),
      before.executable_eq]

/-- The files once the current executable is the backup. -/
def Installed.renamed (before : Installed) : Files :=
  Function.update (Function.update before.files .old (some before.binary)) .executable none

theorem replaceWith_of_none (h : io.renameOld = none) :
    replaceWith io before.files name = takePlace io before.renamed name := by
  unfold replaceWith
  rw [h, rename_none before.executable_eq]
  rfl

theorem replaceWith_of_some {err : String} (h : io.renameOld = some err) :
    (replaceWith io before.files name).1 = before.files := by
  unfold replaceWith
  rw [h, rename_some before.executable_eq]

/-- The executable is kept once it is found in one of the places. -/
theorem kept_iff_mem {after : Files} (hname : newExec io before.files = .ok name)
    (hnew : before.files name = some new) :
    Kept io before after ↔
      after .executable ∈ [some before.binary, some new] ∨ after .old = some before.binary := by
  have hfound : (∃ n, newExec io before.files = .ok n ∧ after .executable = before.files n) ↔
      after .executable = some new := by
    rw [hname]
    simp [hnew]
  unfold Kept
  rw [hfound, List.mem_pair, or_assoc]

/-- **The executable is kept exactly if** the operations do not come out in the one way that loses
it. -/
theorem kept_iff (io : Outcomes) (before : Installed) :
    Kept io before (replaceExecutable io before.files).1 ↔ ¬Loses io before := by
  cases hexec : io.executable with
  | some err =>
    refine iff_of_true (.inl (replaceExecutable_of_error (.inl hexec))) fun hloses => ?_
    rw [hloses.1] at hexec
    cases hexec
  | none =>
  cases hname : newExec io before.files with
  | error err =>
    refine iff_of_true (.inl (replaceExecutable_of_error (.inr hname))) ?_
    rintro ⟨-, -, ⟨name, -, -, hfound, -⟩, -⟩
    rw [hname] at hfound
    cases hfound
  | ok name =>
  obtain ⟨hne, new, hnew⟩ := newExec_cases hname
  obtain ⟨hexecutable, hbackup⟩ := replaceExecutable_eq hexec hname
  rw [kept_iff_mem hname hnew, hexecutable, hbackup]
  cases hold : io.renameOld with
  | some err =>
    refine iff_of_true (.inl ?_) fun hloses => ?_
    · rw [replaceWith_of_some hold, before.executable_eq]
      exact List.mem_cons_self
    · rw [hloses.2.1] at hold
      cases hold
  | none =>
  have hrenamed : before.renamed name = some new :=
    ((Function.update_of_ne hne.1 _ _).trans (Function.update_of_ne hne.2 _ _)).trans hnew
  have hgone : before.renamed .executable = none := Function.update_self _ _ _
  have hthere : before.renamed .old = some before.binary := rfl
  rw [replaceWith_of_none hold]
  cases hrename : io.renameNew with
  | none =>
    refine iff_of_true (.inl ?_) ?_
    · rw [takePlace_of_none hne hrenamed hrename]
      exact List.mem_cons_of_mem _ List.mem_cons_self
    · rintro ⟨-, -, ⟨-, -, err, -, -, herr, -⟩, -⟩
      rw [hrename] at herr
      cases herr
  | some err =>
  by_cases hbreaks : isCrossDeviceError err = true → io.copy.Breaks before.binary new
  · obtain ⟨left, hold', hleft, heq⟩ := takePlace_of_breaks hgone hthere hrenamed hrename hbreaks
    rw [heq, tryToRevert_executable hold']
    by_cases hrevert : io.revert = none
    · rw [if_pos hrevert]
      exact iff_of_true (.inl List.mem_cons_self) fun hloses => hloses.2.2.2.1 hrevert
    · rw [if_neg hrevert, tryToRevert_old hold' hrevert, or_iff_right hleft]
      by_cases hremove : io.removeOld = none
      · -- the backup is removed although it is the only one
        rw [if_pos hremove]
        refine iff_of_false (Option.some_ne_none _).symm fun hkept => hkept ?_
        exact ⟨hexec, hold, ⟨name, new, err, hname, hnew, hrename, hbreaks⟩, hrevert, hremove⟩
      · rw [if_neg hremove]
        exact iff_of_true rfl fun hloses => hremove hloses.2.2.2.2
  · obtain ⟨hcross, hwhole⟩ := Classical.not_imp.mp hbreaks
    refine iff_of_true (.inl (takePlace_of_not_breaks hthere hrenamed hrename hcross hwhole)) ?_
    rintro ⟨-, -, ⟨name', new', err', hname', hnew', herr', hbreaks'⟩, -⟩
    obtain rfl : name = name' := Except.ok.inj (hname.symm.trans hname')
    obtain rfl : new = new' := Option.some.inj (hnew.symm.trans hnew')
    obtain rfl : err = err' := Option.some.inj (hrename.symm.trans herr')
    exact hbreaks hbreaks'

/-- The executable `old`, and a new one that is extracted. -/
def exampleInstalled : Installed where
  files := fun
    | .executable => some [1]
    | .extracted => some [2, 3]
    | _ => none
  binary := [1]
  executable_eq := rfl

/-- Renaming the new one fails, and so does renaming the old one back. -/
def exampleOutcomes : Outcomes where
  executable := none
  statExtracted := none
  statExtractedExe := none
  renameOld := none
  renameNew := some "rename beszel_linux_amd64 beszel: file exists"
  copy := .done
  revert := some "rename beszel.old beszel: file exists"
  removeOld := none
  removeAll := none

/-- **The backup is removed even where it is all that is left.** -/
theorem not_kept_of_failed_revert :
    ¬Kept exampleOutcomes exampleInstalled
      (replaceExecutable exampleOutcomes exampleInstalled.files).1 := by
  have hname : newExec exampleOutcomes exampleInstalled.files = .ok .extracted := rfl
  have hnew : exampleInstalled.files .extracted = some [2, 3] := rfl
  rw [kept_iff_mem hname hnew]
  decide

end Update

end Beszel
