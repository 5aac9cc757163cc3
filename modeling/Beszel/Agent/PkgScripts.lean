import Beszel.Agent.PkgUpdate

/-!
# Agent/PkgScripts — one install script at a time

    current script ──┬── startApply, from the start of the script to the job file
                     ╰── the job file ── the running job ── its watcher ── the exit file

The script that the agent takes to be running is that of the `startApply` in progress or of the
running job, and after a restart that of the job file.  In an orderly run it is the only one that is
live, so the exit file is that of the job that is watched.
-/

namespace Beszel

open Machinery

namespace PkgUpdate

/-! ## Orderly runs -/

/-- The exit file that a watcher found has a code that the job's own script wrote. -/
def Finding.Attributed (f : Finding) : Prop :=
  ∀ exit ∈ f.exit, exit.writer = f.job.script ∧ exit.code.isSome

/-- **At most one script runs, and a job gets only the exit code of its own script.** -/
def Sound (s : State) : Prop :=
  s.scripts.length ≤ 1 ∧ ∀ f ∈ s.outcomes, f.Attributed

/-- The scripts that run or that `systemd-run` is about to start. -/
def State.live (s : State) : List ℕ := s.scripts.map (·.number) ++ s.launching

/-- `startApply` removes the exit file. -/
def ApplyPc.removes : ApplyPc → Bool
  | .removeExit _ => true
  | _ => false

/-- `startApply` has started a script that is not yet in the job file. -/
def ApplyPc.unsaved : ApplyPc → Bool
  | .setStatus _ _ | .saveOpen _ | .saveWrite _ => true
  | _ => false

/-- **A watcher gives up only on a script that has ended and reads the exit file only after the code
has been written**, an old exit file is removed, and the agent does not end between the start of a
script and the job file, which is kept as `Filed` says. -/
def Orderly (s : State) (e : Event) : Prop :=
  Filed s e ∧
    match e with
    | .poll job =>
      match s.exitFile with
      | some exit => exit.code.isSome = true
      | none => s.now - job.startedAt > applyJobTimeout → job.script ∉ s.live
    | .apply ok => ∀ pc ∈ s.apply, pc.removes = true → ok = true ∨ s.exitFile = none
    | .crash => ∀ pc ∈ s.apply, pc.unsaved = false
    | _ => True

/-- The script that the agent takes to be running, or will after its next start. -/
def State.current (s : State) : Option ℕ :=
  if s.up then
    match s.apply, s.jobStatus with
    | some (.setStatus _ n), _ => some n
    | _, .running job => some job.script
    | _, _ => none
  else
    match s.jobFile with
    | .saved job => some job.script
    | _ => none

/-- The exit file may be that of script `n`. -/
def State.Expects (s : State) (n : ℕ) : Prop :=
  match s.apply with
  | some (.start _) => False
  | some (.setStatus _ m) => n = m
  | some (.saveOpen job) | some (.saveWrite job) => n = job.script
  | _ => ∀ job, s.jobFile = .saved job → n = job.script

/-- What is kept in orderly runs. -/
structure Single (s : State) : Prop where
  one : s.live.length ≤ 1
  owner : ∀ n ∈ s.live, s.current = some n
  watched : ∀ job ∈ s.watchers,
    s.watchers = [job] ∧ s.findings = [] ∧ s.jobStatus = .running job ∧ s.apply = none
  found : ∀ f ∈ s.findings,
    s.findings = [f] ∧ s.watchers = [] ∧ s.jobStatus = .running f.job ∧ s.apply = none
  ended : ∀ f ∈ s.findings, f.job.script ∉ s.live
  written : ∀ exit ∈ s.exitFile, exit.code.isSome → exit.writer ∉ s.live
  expected : ∀ exit ∈ s.exitFile, s.Expects exit.writer
  attributed : ∀ f, f ∈ s.findings ∨ f ∈ s.outcomes → f.Attributed

theorem Single.init : Single State.init where
  one := by decide
  owner := nofun
  watched := nofun
  found := nofun
  ended := nofun
  written := nofun
  expected := nofun
  attributed := nofun

section Single

variable {systemd : Bool} {s s' : State} {e : Event}

@[simp] theorem Script.unlink_number (script : Script) : script.unlink.number = script.number := by
  unfold Script.unlink
  split <;> rfl

/-- While no `startApply` has started a script, the script of the running job is the current one. -/
theorem current_eq_of_running {job : Job} (hup : s.up = true) (happly : s.apply = none)
    (hjob : s.jobStatus = .running job) : s.current = some job.script := by
  simp [State.current, hup, happly, hjob]

/-- **Where the current script stands**: its `startApply` is in progress, or it is in the job
file. -/
theorem Recording.current_cases {n : ℕ} (hn : Numbered s) (hs : Recording s)
    (h : s.current = some n) :
    (∃ packages, s.apply = some (.setStatus packages n)) ∨
      ∃ job, job.script = n ∧
        ((s.apply = some (.saveOpen job) ∨ s.apply = some (.saveWrite job)) ∨
          s.jobFile = .saved job ∧ (s.apply = none ∨ s.apply = some (.watch job))) := by
  unfold State.current at h
  split_ifs at h with hup
  · split at h
    case h_1 _ _ ps m happly =>
      obtain rfl := Option.some.inj h
      exact .inl ⟨ps, happly⟩
    case h_2 _ _ job hstatus _ =>
      refine .inr ⟨job, Option.some.inj h, ?_⟩
      cases hpc : s.apply with
      | none => exact .inr ⟨hs.file hup job hstatus (.inl hpc), .inl rfl⟩
      | some pc =>
        have hjob := (hs.busy pc hpc job).mp hstatus
        cases pc with
        | removeExit _ => cases hjob
        | start _ => cases hjob
        | setStatus _ _ => cases hjob
        | saveOpen job' =>
          obtain rfl := Option.some.inj hjob
          exact .inl (.inl rfl)
        | saveWrite job' =>
          obtain rfl := Option.some.inj hjob
          exact .inl (.inr rfl)
        | watch job' =>
          obtain rfl := Option.some.inj hjob
          exact .inr ⟨hs.file hup job' hstatus (.inr hpc), .inr rfl⟩
    case h_3 => cases h
  · have happly := (hn.down (by simpa using hup)).1
    split at h
    case h_1 job hfile => exact .inr ⟨job, Option.some.inj h, .inr ⟨hfile, .inl happly⟩⟩
    case h_2 => cases h

/-- Until `startApply` has started a script, none is live. -/
theorem Single.live_eq_nil {pc : ApplyPc} (hn : Numbered s) (hr : Recording s) (hs : Single s)
    (hpc : s.apply = some pc) (hjob : pc.job = none) (hset : pc.unsaved = false) : s.live = [] := by
  refine List.eq_nil_iff_forall_not_mem.mpr fun n hlive => ?_
  rcases hr.current_cases hn (hs.owner n hlive) with
    ⟨ps, h⟩ | ⟨job, -, (h | h) | ⟨-, h | h⟩⟩
  · obtain rfl := Option.some.inj (hpc.symm.trans h)
    cases hset
  · obtain rfl := Option.some.inj (hpc.symm.trans h)
    cases hset
  · obtain rfl := Option.some.inj (hpc.symm.trans h)
    cases hset
  · exact nomatch hpc.symm.trans h
  · obtain rfl := Option.some.inj (hpc.symm.trans h)
    cases hjob

/-- **The exit file may be written by the current script.** -/
theorem Recording.expects {n : ℕ} (hn : Numbered s) (hs : Recording s) (h : s.current = some n) :
    s.Expects n := by
  rcases hs.current_cases hn h with ⟨ps, h⟩ | ⟨job, rfl, (h | h) | ⟨hfile, h | h⟩⟩
  · simp only [State.Expects, h]
  · simp only [State.Expects, h]
  · simp only [State.Expects, h]
  · simp [State.Expects, h, hfile]
  · simp [State.Expects, h, hfile]

/-- **Fewer scripts**, and an exit file that was there or is that of a current script. -/
theorem Single.of_live {scripts : List Script} {launching : List ℕ} {exitFile : Option ExitFile}
    (hs : Single s) (hsub : ∀ n ∈ scripts.map (·.number) ++ launching, n ∈ s.live)
    (hlen : (scripts.map (·.number) ++ launching).length ≤ s.live.length)
    (hwritten : ∀ exit ∈ exitFile, exit.code.isSome →
      exit.writer ∉ scripts.map (·.number) ++ launching)
    (hexpected : ∀ exit ∈ exitFile, s.Expects exit.writer) :
    Single { s with scripts := scripts, launching := launching, exitFile := exitFile } where
  one := hlen.trans hs.one
  owner n hn := hs.owner n (hsub n hn)
  watched := hs.watched
  found := hs.found
  ended f hf hlive := hs.ended f hf (hsub _ hlive)
  written := hwritten
  expected := hexpected
  attributed := hs.attributed

/-- **No script is live**: there is nothing to be said about scripts. -/
theorem Single.of_live_eq_nil (hlive : s.live = [])
    (hwatched : ∀ job ∈ s.watchers,
      s.watchers = [job] ∧ s.findings = [] ∧ s.jobStatus = .running job ∧ s.apply = none)
    (hfound : ∀ f ∈ s.findings,
      s.findings = [f] ∧ s.watchers = [] ∧ s.jobStatus = .running f.job ∧ s.apply = none)
    (hexpected : ∀ exit ∈ s.exitFile, s.Expects exit.writer)
    (hattributed : ∀ f, f ∈ s.findings ∨ f ∈ s.outcomes → f.Attributed) : Single s where
  one := by simp [hlive]
  owner n hn := by simp [hlive] at hn
  watched := hwatched
  found := hfound
  ended := by simp [hlive]
  written := by simp [hlive]
  expected := hexpected
  attributed := hattributed

/-- While `startApply` is in progress, no job is watched. -/
theorem Single.unwatched {pc : ApplyPc} (hs : Single s) (hpc : s.apply = some pc) :
    s.watchers = [] ∧ s.findings = [] := by
  refine ⟨List.eq_nil_iff_forall_not_mem.mpr fun job hjob => ?_,
    List.eq_nil_iff_forall_not_mem.mpr fun f hf => ?_⟩
  · exact nomatch hpc.symm.trans (hs.watched job hjob).2.2.2
  · exact nomatch hpc.symm.trans (hs.found f hf).2.2.2

/-- `startApply` goes on with the same script. -/
theorem Single.of_apply {pc pc' : ApplyPc} {status : JobStatus} {file : JobFile} (hs : Single s)
    (hpc : s.apply = some pc)
    (hcurrent : State.current { s with jobStatus := status, jobFile := file, apply := some pc' } =
      s.current)
    (hexpects : ∀ n, s.Expects n →
      State.Expects { s with jobStatus := status, jobFile := file, apply := some pc' } n) :
    Single { s with jobStatus := status, jobFile := file, apply := some pc' } := by
  obtain ⟨hwatchers, hfindings⟩ := hs.unwatched hpc
  refine { hs with
    owner := fun n h => hcurrent.trans (hs.owner n h)
    watched := fun job h => ?_
    found := fun f h => ?_
    expected := fun exit h => hexpects _ (hs.expected exit h) }
  · exact absurd (hwatchers ▸ h) List.not_mem_nil
  · exact absurd (hfindings ▸ h) List.not_mem_nil

/-- The old exit file is removed. -/
theorem Single.removeExit {packages : List String} {ok : Bool} (hn : Numbered s)
    (hr : Recording s) (hs : Single s) (hpc : s.apply = some (.removeExit packages))
    (hremove : ok = true ∨ s.exitFile = none) :
    Single (PkgUpdate.applyStep systemd s ok (.removeExit packages)) := by
  obtain ⟨hwatchers, hfindings⟩ := hs.unwatched hpc
  have hlive := hs.live_eq_nil hn hr hpc rfl rfl
  refine .of_live_eq_nil ?_ (fun job h => ?_) (fun f h => ?_) (fun exit h => ?_) hs.attributed
  · rw [← hlive]
    cases ok with
    | true => simp [PkgUpdate.applyStep, State.live, Function.comp_def]
    | false => rfl
  · exact absurd (hwatchers ▸ h) List.not_mem_nil
  · exact absurd (hfindings ▸ h) List.not_mem_nil
  · rcases hremove with rfl | hexit
    · cases h
    · simp [PkgUpdate.applyStep, hexit] at h

/-- **The only script is started.** -/
theorem Single.start {packages : List String} {ok : Bool} (hn : Numbered s) (hr : Recording s)
    (hs : Single s) (hpc : s.apply = some (.start packages)) :
    Single (PkgUpdate.applyStep systemd s ok (.start packages)) := by
  have hup := hn.up hpc
  obtain ⟨hwatchers, hfindings⟩ := hs.unwatched hpc
  have hnone : ∀ job, job ∉ s.watchers := by simp [hwatchers]
  have hnone' : ∀ f, f ∉ s.findings := by simp [hfindings]
  have hlive := hs.live_eq_nil hn hr hpc rfl rfl
  have hexit : s.exitFile = none := Option.eq_none_iff_forall_not_mem.mpr fun exit h => by
    have := hs.expected exit h
    simp [State.Expects, hpc] at this
  cases ok with
  | true =>
    have hlive' : (PkgUpdate.applyStep systemd s true (.start packages)).live = [s.started] := by
      obtain ⟨hscripts, hlaunching⟩ := List.append_eq_nil_iff.mp hlive
      have hscripts := List.map_eq_nil_iff.mp hscripts
      cases systemd <;> simp [PkgUpdate.applyStep, State.live, hscripts, hlaunching]
    refine ⟨by simp [hlive'], fun n h => ?_, fun job h => absurd h (hnone job),
      fun f h => absurd h (hnone' f), fun f h => absurd h (hnone' f), fun exit h => ?_,
      fun exit h => ?_, hs.attributed⟩
    · rw [hlive'] at h
      obtain rfl := List.mem_singleton.mp h
      simp [PkgUpdate.applyStep, State.current, hup]
    · exact absurd (h.symm.trans hexit) (Option.some_ne_none exit)
    · exact absurd (h.symm.trans hexit) (Option.some_ne_none exit)
  | false =>
    refine .of_live_eq_nil hlive (fun job h => absurd h (hnone job))
      (fun f h => absurd h (hnone' f)) (fun exit h => ?_) hs.attributed
    exact absurd (h.symm.trans hexit) (Option.some_ne_none exit)

theorem Single.applyStep {pc : ApplyPc} {ok : Bool} (hn : Numbered s) (hr : Recording s)
    (hs : Single s) (hpc : s.apply = some pc) (hsave : pc.saves = true → ok = true)
    (hremove : pc.removes = true → ok = true ∨ s.exitFile = none) :
    Single (PkgUpdate.applyStep systemd s ok pc) := by
  have hup := hn.up hpc
  obtain ⟨hwatchers, hfindings⟩ := hs.unwatched hpc
  cases pc with
  | removeExit packages => exact hs.removeExit hn hr hpc (hremove rfl)
  | start packages => exact hs.start hn hr hpc
  | setStatus packages n =>
    refine hs.of_apply hpc ?_ fun m h => ?_
    · simp [State.current, hup, hpc]
    · simpa [State.Expects, hpc] using h
  | saveOpen job =>
    obtain rfl := hsave rfl
    have hstatus := (hr.busy _ hpc job).mpr rfl
    refine hs.of_apply hpc ?_ fun m h => ?_
    · simp [State.current, hup, hpc, hstatus]
    · simpa [State.Expects, hpc] using h
  | saveWrite job =>
    obtain rfl := hsave rfl
    have hstatus := (hr.busy _ hpc job).mpr rfl
    refine hs.of_apply hpc ?_ fun m h => ?_
    · simp [State.current, hup, hpc, hstatus]
    · simpa [State.Expects, hpc, hr.writing job hpc] using h
  | watch job =>
    have hstatus := (hr.busy _ hpc job).mpr rfl
    refine { hs with
      owner := fun m h => ?_
      watched := fun job' h => ?_
      found := fun f h => absurd (hfindings ▸ h) List.not_mem_nil
      expected := fun exit h => ?_ }
    · have := hs.owner m h
      simpa [PkgUpdate.applyStep, State.current, hup, hpc, hstatus] using this
    · simp only [PkgUpdate.applyStep, hwatchers] at h ⊢
      obtain rfl := List.mem_singleton.mp h
      exact ⟨rfl, hfindings, hstatus, trivial⟩
    · have := hs.expected exit h
      simpa [PkgUpdate.applyStep, State.Expects, hpc] using this

theorem Single.poll {job : Job} (hn : Numbered s) (hr : Recording s) (hs : Single s)
    (hok : Orderly s (.poll job)) (hjob : job ∈ s.watchers) : Single (pollStep s job) := by
  obtain ⟨hwatchers, hfindings, hstatus, happly⟩ := hs.watched job hjob
  have hup := hn.up_of_mem_watchers hjob
  -- the script of the job has ended, with or without an exit code
  have hfound (exit : Option ExitFile) (hover : job.script ∉ s.live)
      (hexit : Finding.Attributed ⟨job, exit⟩) :
      Single
        { s with watchers := s.watchers.erase job, findings := ⟨job, exit⟩ :: s.findings } := by
    have hempty : s.watchers.erase job = [] := by simp [hwatchers]
    refine { hs with
      watched := fun job' h => ?_
      found := fun f h => ?_
      ended := fun f h => ?_
      attributed := fun f h => ?_ }
    · exact absurd (hempty ▸ h) List.not_mem_nil
    · obtain rfl := List.mem_singleton.mp (hfindings ▸ h)
      exact ⟨by rw [hfindings], hempty, hstatus, happly⟩
    · obtain rfl := List.mem_singleton.mp (hfindings ▸ h)
      exact hover
    · rcases h with h | h
      · obtain rfl := List.mem_singleton.mp (hfindings ▸ h)
        exact hexit
      · exact hs.attributed f (.inr h)
  have hok := hok.2
  unfold pollStep
  split
  case h_1 exit hexit =>
    simp only [hexit] at hok
    have hwriter : exit.writer = job.script := by
      have := hs.expected exit hexit
      simp only [State.Expects, happly] at this
      exact this job (hr.file hup job hstatus (.inl happly))
    refine hfound _ (hwriter ▸ hs.written exit hexit hok) fun exit' h => ?_
    obtain rfl := Option.some.inj h
    exact ⟨hwriter, hok⟩
  case h_2 hexit =>
    simp only [hexit] at hok
    split_ifs with htimeout
    · exact hfound _ (hok htimeout) nofun
    · exact hs

theorem Single.finalizeJob {f : Finding} (hn : Numbered s) (hs : Single s) (hf : f ∈ s.findings)
    (happly : s.apply = none) :
    Single
      { s with
        jobStatus := f.status
        findings := s.findings.erase f
        removing := f.job :: s.removing
        outcomes := f :: s.outcomes } := by
  obtain ⟨hfindings, hwatchers, hstatus, -⟩ := hs.found f hf
  have hempty : s.findings.erase f = [] := by simp [hfindings]
  have hup := hn.up_of_mem_findings hf
  have hlive : s.live = [] := by
    refine List.eq_nil_iff_forall_not_mem.mpr fun n h => hs.ended f hf ?_
    have hn := (current_eq_of_running hup happly hstatus).symm.trans (hs.owner n h)
    exact Option.some.inj hn ▸ h
  refine .of_live_eq_nil hlive (fun job h => ?_) (fun f' h => ?_) hs.expected fun f' h => ?_
  · exact absurd (hwatchers ▸ h) List.not_mem_nil
  · exact absurd (hempty ▸ h) List.not_mem_nil
  · rcases h with h | h
    · exact absurd (hempty ▸ h) List.not_mem_nil
    · rcases List.mem_cons.mp h with rfl | h
      · exact hs.attributed f' (.inl hf)
      · exact hs.attributed f' (.inr h)

theorem Single.removeJob {job : Job} {ok : Bool} (hn : Numbered s) (hs : Single s)
    (hjob : job ∈ s.removing) :
    Single
      { s with
        jobFile := if ok then .absent else s.jobFile
        removing := s.removing.erase job } := by
  have hup := hn.up_of_mem_removing hjob
  refine { hs with
    owner := fun n h => ?_
    expected := fun exit h => ?_ }
  · have := hs.owner n h
    simpa [State.current, hup] using this
  · have := hs.expected exit h
    cases ok with
    | false => exact this
    | true =>
      simp only [State.Expects] at this ⊢
      split <;> simp_all

/-- A crash, but for that of a `startApply` with a script that is not yet in the job file. -/
theorem Single.crashed (hn : Numbered s) (hr : Recording s) (hs : Single s)
    (hok : ∀ pc ∈ s.apply, pc.unsaved = false) : Single s.crashed := by
  refine ⟨hs.one, fun n h => ?_, nofun, nofun, nofun, hs.written, fun exit h => ?_,
    fun f h => hs.attributed f (.inr (h.resolve_left nofun))⟩
  · rcases hr.current_cases hn (hs.owner n h) with
      ⟨ps, h⟩ | ⟨job, rfl, (h | h) | ⟨hfile, -⟩⟩
    · exact absurd (hok _ h) (by simp [ApplyPc.unsaved])
    · exact absurd (hok _ h) (by simp [ApplyPc.unsaved])
    · exact absurd (hok _ h) (by simp [ApplyPc.unsaved])
    · simp [State.current, State.crashed, hfile]
  · have hexpected := hs.expected exit h
    simp only [State.Expects, State.crashed] at hexpected ⊢
    split at hexpected
    · exact hexpected.elim
    · rename_i h
      exact absurd (hok _ h) (by simp [ApplyPc.unsaved])
    · rename_i h
      exact absurd (hok _ h) (by simp [ApplyPc.unsaved])
    · rename_i h
      exact absurd (hok _ h) (by simp [ApplyPc.unsaved])
    · exact hexpected

theorem Single.recover (hn : Numbered s) (hs : Single s) (hdown : s.up = false) :
    Single (PkgUpdate.recover s) := by
  obtain ⟨happly, hwatchers, hfindings, -, hidle⟩ := hn.down hdown
  have hnone : ∀ job, job ∉ s.watchers := by simp [hwatchers]
  have hnone' : ∀ f, f ∉ s.findings := by simp [hfindings]
  have howner n (h : n ∈ s.live) : ∃ job, s.jobFile = .saved job ∧ job.script = n := by
    have := hs.owner n h
    simp only [State.current, hdown, Bool.false_eq_true, if_false] at this
    split at this
    case h_1 job hfile => exact ⟨job, hfile, Option.some.inj this⟩
    case h_2 => cases this
  unfold PkgUpdate.recover
  split
  case h_1 hfile =>
    refine { hs with owner := fun n h => ?_ }
    obtain ⟨job, h, -⟩ := howner n h
    exact nomatch hfile.symm.trans h
  case h_2 hfile =>
    refine { hs with
      owner := fun n h => ?_
      expected := fun exit h => ?_ }
    · obtain ⟨job, h, -⟩ := howner n h
      exact nomatch hfile.symm.trans h
    · simp [State.Expects, happly]
  case h_3 job hfile =>
    refine { hs with
      owner := fun n h => ?_
      watched := fun job' h => ?_
      found := fun f h => absurd h (hnone' f)
      expected := hs.expected }
    · obtain ⟨job', hfile', rfl⟩ := howner n h
      obtain rfl := JobFile.saved.inj (hfile.symm.trans hfile')
      simp [State.current, happly]
    · obtain rfl := List.mem_singleton.mp h
      exact ⟨rfl, hfindings, rfl, happly⟩

/-- A script that runs is the only one, and the exit file may be written by it. -/
theorem Single.of_mem_scripts {script : Script} (hn : Numbered s) (hr : Recording s) (hs : Single s)
    (hscript : script ∈ s.scripts) :
    s.scripts = [script] ∧ s.launching = [] ∧ s.Expects script.number := by
  have hlive : script.number ∈ s.live := List.mem_append_left _ (List.mem_map_of_mem hscript)
  have hone := hs.one
  have hpos := List.length_pos_of_mem hscript
  rw [State.live, List.length_append, List.length_map] at hone
  refine ⟨?_, List.length_eq_zero_iff.mp (by omega), hr.expects hn (hs.owner _ hlive)⟩
  obtain ⟨script', h⟩ := List.length_eq_one_iff.mp (by omega : s.scripts.length = 1)
  rw [h] at hscript ⊢
  rw [List.mem_singleton.mp hscript]

/-- A script that is to be started is the only one. -/
theorem Single.of_mem_launching {n : ℕ} (hs : Single s) (hlaunch : n ∈ s.launching) :
    s.launching = [n] ∧ s.scripts = [] := by
  have hone := hs.one
  have hpos := List.length_pos_of_mem hlaunch
  rw [State.live, List.length_append, List.length_map] at hone
  refine ⟨?_, List.length_eq_zero_iff.mp (by omega)⟩
  obtain ⟨m, h⟩ := List.length_eq_one_iff.mp (by omega : s.launching.length = 1)
  rw [h] at hlaunch ⊢
  rw [List.mem_singleton.mp hlaunch]

theorem Single.step (hn : Numbered s) (hr : Recording s) (hs : Single s) (hok : Orderly s e)
    (h : PkgUpdate.step systemd s e = some s') : Single s' := by
  cases e with
  | advance ms =>
    obtain rfl := Option.some.inj h
    exact { hs with }
  | startApply updates req argv =>
    obtain ⟨hup, happly, rfl | ⟨packages, hcheck, rfl⟩⟩ := cases_of_startApply h
    · exact hs
    · have hidle := not_running_of_checkApply hcheck
      have hlive : s.live = [] := by
        refine List.eq_nil_iff_forall_not_mem.mpr fun n h => ?_
        have := hs.owner n h
        cases hstatus : s.jobStatus with
        | running job => exact hidle job hstatus
        | _ => simp [State.current, hup, happly, hstatus] at this
      refine .of_live_eq_nil hlive (fun job h => ?_) (fun f h => ?_) (fun exit h => ?_)
        hs.attributed
      · exact absurd (hs.watched job h).2.2.1 (hidle job)
      · exact absurd (hs.found f h).2.2.1 (hidle f.job)
      · have := hs.expected exit h
        simpa [State.Expects, happly] using this
  | apply ok =>
    obtain ⟨pc, hpc, rfl⟩ := Option.map_eq_some_iff.mp h
    exact hs.applyStep hn hr hpc (hok.1 pc hpc) (hok.2 pc hpc)
  | poll job =>
    obtain ⟨hjob, rfl⟩ := guard_eq_some h
    exact hs.poll hn hr hok hjob
  | finalizeJob f =>
    obtain ⟨⟨hf, happly⟩, rfl⟩ := guard_eq_some h
    exact hs.finalizeJob hn hf happly
  | removeJob job ok =>
    obtain ⟨hjob, rfl⟩ := guard_eq_some h
    exact hs.removeJob hn hjob
  | crash =>
    obtain ⟨-, rfl⟩ := guard_eq_some h
    exact hs.crashed hn hr hok.2
  | recoverJob =>
    obtain ⟨hdown, h⟩ := Option.ite_none_left_eq_some.mp h
    obtain rfl := Option.some.inj h
    exact hs.recover hn (by simpa using hdown)
  | launch n =>
    obtain ⟨hlaunch, rfl⟩ := guard_eq_some h
    obtain ⟨hlaunching, hscripts⟩ := hs.of_mem_launching hlaunch
    refine hs.of_live ?_ ?_ ?_ hs.expected
    · simp [State.live, hscripts, hlaunching]
    · simp [State.live, hscripts, hlaunching]
    · simpa [State.live, hscripts, hlaunching] using hs.written
  | lost n =>
    obtain ⟨hlaunch, rfl⟩ := guard_eq_some h
    obtain ⟨hlaunching, hscripts⟩ := hs.of_mem_launching hlaunch
    refine hs.of_live ?_ ?_ ?_ hs.expected
    · simp [hscripts, hlaunching]
    · simp [hscripts, hlaunching]
    · simp [hscripts, hlaunching]
  | openExit n =>
    obtain ⟨hscript, rfl⟩ := guard_eq_some h
    obtain ⟨hscripts, hlaunching, hexpects⟩ := hs.of_mem_scripts hn hr hscript
    refine hs.of_live ?_ ?_ ?_ ?_
    · simp [State.live, hscripts, hlaunching]
    · simp [State.live, hscripts, hlaunching]
    · simp
    · intro exit h
      obtain rfl := Option.some.inj h
      exact hexpects
  | writeExit n code =>
    obtain ⟨hscript, rfl⟩ := guard_eq_some h
    obtain ⟨hscripts, hlaunching, hexpects⟩ := hs.of_mem_scripts hn hr hscript
    refine hs.of_live ?_ ?_ ?_ ?_
    · simp [hscripts, hlaunching]
    · simp [hscripts, hlaunching]
    · simp [hscripts, hlaunching]
    · intro exit h
      obtain rfl := Option.some.inj h
      exact hexpects
  | ended script =>
    obtain ⟨hscript, rfl⟩ := guard_eq_some h
    obtain ⟨hscripts, hlaunching, -⟩ := hs.of_mem_scripts hn hr hscript
    refine hs.of_live ?_ ?_ ?_ hs.expected
    · simp [hscripts, hlaunching]
    · simp [hscripts, hlaunching]
    · simp [hscripts, hlaunching]

/-- **One script at a time, and every exit code with its job, in every orderly run.** -/
theorem sound_of_along {es : List Event} (hok : Along (PkgUpdate.step systemd) Orderly .init es)
    (hr : run (PkgUpdate.step systemd) .init es = some s) : Sound s := by
  obtain ⟨-, -, hs⟩ : Numbered s ∧ Recording s ∧ Single s :=
    inv_of_along (I := fun s => Numbered s ∧ Recording s ∧ Single s)
      (fun hs hok h =>
        ⟨hs.1.step h, hs.2.1.step hs.1 hok.1 h, hs.2.2.step hs.1 hs.2.1 hok h⟩)
      ⟨.init, .init, .init⟩ hok hr
  refine ⟨?_, fun f hf => hs.attributed f (.inr hf)⟩
  have hone := hs.one
  rw [State.live, List.length_append, List.length_map] at hone
  omega

end Single

instance (s : State) : ∀ e, Decidable (Orderly s e)
  | .poll job =>
    match hexit : s.exitFile with
    | some exit => decidable_of_iff (exit.code.isSome = true) (by simp [Orderly, Filed, hexit])
    | none => decidable_of_iff (s.now - job.startedAt > applyJobTimeout → job.script ∉ s.live)
        (by simp [Orderly, Filed, hexit])
  | .apply ok => inferInstanceAs (Decidable (Filed s (.apply ok) ∧ ∀ pc ∈ s.apply, _ → _))
  | .crash => inferInstanceAs (Decidable (True ∧ ∀ pc ∈ s.apply, _))
  | .removeJob job ok => inferInstanceAs (Decidable (Filed s (.removeJob job ok) ∧ True))
  | .advance _ | .startApply _ _ _ | .finalizeJob _ | .recoverJob | .launch _ | .lost _
  | .openExit _ | .writeExit _ _ | .ended _ => .isTrue ⟨trivial, trivial⟩

/-- A job is done, and another one fails after the agent has restarted. -/
theorem sound_of_along_two_jobs :
    ∃ s, run (step false) State.init (start "bash" ++ finish ⟨["bash"], 0, 0⟩ 0 ++
          .removeJob ⟨["bash"], 0, 0⟩ true :: start "curl" ++ [.crash, .recoverJob] ++
          finish ⟨["curl"], 0, 1⟩ 100) = some s ∧
      (s.outcomes.map (·.status) = [.failed ⟨["curl"], 0, 1⟩, .done ⟨["bash"], 0, 0⟩]) ∧
        Sound s := by
  have hok : Along (step false) Orderly State.init (start "bash" ++ finish ⟨["bash"], 0, 0⟩ 0 ++
      .removeJob ⟨["bash"], 0, 0⟩ true :: start "curl" ++ [.crash, .recoverJob] ++
      finish ⟨["curl"], 0, 1⟩ 100) := by
    decide +kernel
  exact ⟨_, rfl, by decide +kernel, sound_of_along hok rfl⟩

/-- **A watcher gives up on a script that goes on**: without systemd nothing ends it after an hour,
and the next job runs beside it. -/
theorem not_sound_timeout :
    ∃ s, run (step false) State.init (start "bash" ++
          [.advance (applyJobTimeout + 1), .poll ⟨["bash"], 0, 0⟩,
            .finalizeJob ⟨⟨["bash"], 0, 0⟩, none⟩, .removeJob ⟨["bash"], 0, 0⟩ true] ++
          start "curl") = some s ∧ ¬ Sound s := by
  refine ⟨_, rfl, fun h => ?_⟩
  exact absurd h.1 (by decide +kernel)

end PkgUpdate

end Beszel
