import Beszel.Common.Protocol
import Beszel.Machinery.Run
import Mathlib.Data.List.Basic
import Mathlib.Order.Basic

/-!
# Agent/PkgUpdate — the background job that applies package updates

    startApply ──▸ script (detached) ──▸ exit file ──▸ watchJob ──▸ finalizeJob
        ╰──▸ job file ◂───────────── recoverJob ◂── restart        ╰──▸ removes the job file

The job of `agent/pkgupdate.go` lives in the status in memory, the job file, the exit file and the
script, which survives the agent.  `startApply` holds the lock from its check to its end;
`finalizeJob` takes it for the status only.  A step is one operation on a file, on the status or on
the script; scripts are numbered, so that a job and an exit code can be traced to theirs.
-/

namespace Beszel

open Machinery

namespace PkgUpdate

/-! ## Jobs -/

/-- `applyJob`, with the number of the script that was started for it.  Times are milliseconds. -/
structure Job where
  packages : List String
  startedAt : ℕ
  script : ℕ
  deriving DecidableEq, Repr

/-- `common.PackageApplyStatus`. -/
inductive JobStatus
  | idle
  | running (job : Job)
  | done (job : Job)
  | failed (job : Job)
  deriving DecidableEq, Repr

/-- The job file: `os.WriteFile` empties it before it writes. -/
inductive JobFile
  | absent
  | truncated
  | saved (job : Job)
  deriving DecidableEq, Repr

/-- The exit file, with the script that wrote it; the shell opens it before `echo` writes the
code. -/
structure ExitFile where
  writer : ℕ
  code : Option ℕ
  deriving DecidableEq, Repr

/-- Where an install script is: `unlinked` if the exit file that it has opened has been removed. -/
inductive ScriptPc
  | installing
  | writing
  | unlinked
  deriving DecidableEq, Repr

/-- An install script that runs. -/
structure Script where
  number : ℕ
  pc : ScriptPc
  deriving DecidableEq, Repr

/-- The exit file is removed. -/
def Script.unlink (script : Script) : Script :=
  match script.pc with
  | .writing => { script with pc := .unlinked }
  | _ => script

/-- What a watcher found: the exit file, or `none` after the timeout. -/
structure Finding where
  job : Job
  exit : Option ExitFile
  deriving DecidableEq, Repr

/-- The status of `finalizeJob`. -/
def Finding.status (f : Finding) : JobStatus :=
  match f.exit with
  | some ⟨_, some 0⟩ => .done f.job
  | _ => .failed f.job

/-- `applyJobTimeout`. -/
def applyJobTimeout : ℕ := 60 * 60 * 1000

/-! ## `startApply`, up to its first effect -/

/-- `system.PackageUpdate`, as far as `startApply` reads it. -/
structure PackageUpdate where
  name : String
  security : Bool
  held : Bool
  deriving DecidableEq, Repr

/-- The expression `^[A-Za-z0-9][A-Za-z0-9.+:_-]*$`. -/
def validPackageName (name : String) : Bool :=
  match name.toList with
  | [] => false
  | c :: cs => c.isAlphanum && cs.all fun c => c.isAlphanum || c ∈ ['.', '+', ':', '_', '-']

/-- The errors of `startApply` before it does anything. -/
inductive StartError
  | noApplicableUpdates
  | invalidPackageName (pkg : String)
  | alreadyRunning
  | held (pkg : String)
  | argv (err : String)
  deriving DecidableEq, Repr

/-- The packages of a request, for `All` those of the cached updates. -/
def packagesOf (updates : List PackageUpdate) (req : ApplyPackageUpdatesRequest) :
    Except StartError (List String) :=
  if req.all then
    let packages := (updates.filter fun u => !(u.held || (req.securityOnly && !u.security))).map
      (·.name)
    if packages = [] then .error .noApplicableUpdates else .ok packages
  else .ok req.packages

/-- **The checks of `startApply`**, in their order; `argv` is the command for the request. -/
def checkApply (updates : List PackageUpdate) (status : JobStatus)
    (req : ApplyPackageUpdatesRequest) (argv : Except String (List String)) :
    Except StartError (List String) :=
  (packagesOf updates req).bind fun packages =>
    match packages.find? (!validPackageName ·) with
    | some pkg => .error (.invalidPackageName pkg)
    | none =>
      match status with
      | .running _ => .error .alreadyRunning
      | _ =>
        match updates.find? fun u => u.held && decide (u.name ∈ packages) with
        | some u => .error (.held u.name)
        | none =>
          match argv with
          | .error err => .error (.argv err)
          | .ok _ => .ok packages

/-! ## The machine -/

/-- Where `startApply` is, after its checks. -/
inductive ApplyPc
  | removeExit (packages : List String)
  | start (packages : List String)
  | setStatus (packages : List String) (script : ℕ)
  | saveOpen (job : Job)
  | saveWrite (job : Job)
  | watch (job : Job)
  deriving DecidableEq, Repr

/-- The memory of the agent, the two files and the scripts.  `launching` are the scripts that
`systemd-run` has been started for, `findings` and `removing` the jobs in `finalizeJob` before and
after the status is set, and `outcomes` the jobs that have been finalised. -/
structure State where
  now : ℕ
  up : Bool
  jobStatus : JobStatus
  apply : Option ApplyPc
  watchers : List Job
  findings : List Finding
  removing : List Job
  jobFile : JobFile
  exitFile : Option ExitFile
  launching : List ℕ
  scripts : List Script
  started : ℕ
  outcomes : List Finding

def State.init : State where
  now := 0
  up := true
  jobStatus := .idle
  apply := none
  watchers := []
  findings := []
  removing := []
  jobFile := .absent
  exitFile := none
  launching := []
  scripts := []
  started := 0
  outcomes := []

/-- A step of the agent, with the outcome of its operation; a crash of the agent and its next start;
or a step of a script.  `lost` is one that `systemd-run` does not start, and `ended` one that ends
without an exit code: it is killed, or the exit file it has opened has been removed. -/
inductive Event
  | advance (ms : ℕ)
  | startApply (updates : List PackageUpdate) (req : ApplyPackageUpdatesRequest)
      (argv : Except String (List String))
  | apply (ok : Bool)
  | poll (job : Job)
  | finalizeJob (f : Finding)
  | removeJob (job : Job) (ok : Bool)
  | crash
  | recoverJob
  | launch (script : ℕ)
  | lost (script : ℕ)
  | openExit (script : ℕ)
  | writeExit (script code : ℕ)
  | ended (script : Script)

section Machine

-- `systemd-run` is there; the unit has a fixed name, and systemd refuses it while it is active
variable (systemd : Bool)

/-- **The next step of `startApply`**, which holds the lock. -/
def applyStep (s : State) (ok : Bool) : ApplyPc → State
  | .removeExit packages =>
    { s with
      exitFile := if ok then none else s.exitFile
      scripts := if ok then s.scripts.map Script.unlink else s.scripts
      apply := some (.start packages) }
  | .start packages =>
    if ok then
      { s with
        started := s.started + 1
        launching := if systemd then s.started :: s.launching else s.launching
        scripts := if systemd then s.scripts else ⟨s.started, .installing⟩ :: s.scripts
        apply := some (.setStatus packages s.started) }
    else { s with apply := none }
  | .setStatus packages script =>
    { s with
      jobStatus := .running ⟨packages, s.now, script⟩
      apply := some (.saveOpen ⟨packages, s.now, script⟩) }
  | .saveOpen job =>
    if ok then { s with jobFile := .truncated, apply := some (.saveWrite job) }
    else { s with apply := some (.watch job) }
  | .saveWrite job =>
    -- a file that has been removed meanwhile stays removed
    { s with
      jobFile := if ok && s.jobFile = .truncated then .saved job else s.jobFile
      apply := some (.watch job) }
  | .watch job => { s with watchers := job :: s.watchers, apply := none }

/-- A poll of `watchJob`. -/
def pollStep (s : State) (job : Job) : State :=
  match s.exitFile with
  | some exit =>
    { s with watchers := s.watchers.erase job, findings := ⟨job, some exit⟩ :: s.findings }
  | none =>
    if s.now - job.startedAt > applyJobTimeout then
      { s with watchers := s.watchers.erase job, findings := ⟨job, none⟩ :: s.findings }
    else s

/-- `recoverJob`, when the agent starts. -/
def recover (s : State) : State :=
  match s.jobFile with
  | .absent => { s with up := true }
  | .truncated => { s with up := true, jobFile := .absent }
  | .saved job => { s with up := true, jobStatus := .running job, watchers := [job] }

/-- The agent ends, and with it everything it has in memory. -/
def State.crashed (s : State) : State :=
  { s with
    up := false, jobStatus := .idle, apply := none, watchers := [], findings := [], removing := [] }

/-- **One event.** -/
def step (s : State) : Event → Option State
  | .advance ms => some { s with now := s.now + ms }
  | .startApply updates req argv =>
    if s.up ∧ s.apply = none then
      match checkApply updates s.jobStatus req argv with
      | .error _ => some s
      | .ok packages => some { s with apply := some (.removeExit packages) }
    else none
  | .apply ok => s.apply.map (applyStep systemd s ok)
  | .poll job => if job ∈ s.watchers then some (pollStep s job) else none
  | .finalizeJob f =>
    if f ∈ s.findings ∧ s.apply = none then
      some
        { s with
          jobStatus := f.status
          findings := s.findings.erase f
          removing := f.job :: s.removing
          outcomes := f :: s.outcomes }
    else none
  | .removeJob job ok =>
    if job ∈ s.removing then
      some
        { s with
          jobFile := if ok then .absent else s.jobFile
          removing := s.removing.erase job }
    else none
  | .crash => if s.up then some s.crashed else none
  | .recoverJob => if s.up then none else some (recover s)
  | .launch n =>
    if n ∈ s.launching then
      some
        { s with
          launching := s.launching.erase n
          scripts := if s.scripts = [] then [⟨n, .installing⟩] else s.scripts }
    else none
  | .lost n => if n ∈ s.launching then some { s with launching := s.launching.erase n } else none
  | .openExit n =>
    if ⟨n, .installing⟩ ∈ s.scripts then
      some
        { s with
          exitFile := some ⟨n, none⟩
          scripts := ⟨n, .writing⟩ :: s.scripts.erase ⟨n, .installing⟩ }
    else none
  | .writeExit n code =>
    if ⟨n, .writing⟩ ∈ s.scripts then
      some
        { s with
          exitFile := some ⟨n, some code⟩
          scripts := s.scripts.erase ⟨n, .writing⟩ }
    else none
  | .ended script =>
    if script ∈ s.scripts then some { s with scripts := s.scripts.erase script } else none

end Machine

/-! ## The job file -/

/-- **The running job is on disk**: while a job runs and no `startApply` is in progress, the job
file has that job, and an agent that restarts now goes on with it. -/
def Recorded (s : State) : Prop :=
  s.up = true → s.apply = none → ∀ job, s.jobStatus = .running job →
    s.jobFile = .saved job ∧ (recover s.crashed).jobStatus = .running job

/-- There is no job file, or it has this job or one that does not run. -/
def Own (s : State) (job : Job) : Prop :=
  match s.jobFile with
  | .absent => True
  | .truncated => False
  | .saved job' => job' = job ∨ s.jobStatus ≠ .running job'

/-- `startApply` is in `saveJob`. -/
def ApplyPc.saves : ApplyPc → Bool
  | .saveOpen _ | .saveWrite _ => true
  | _ => false

/-- **The job file is written without an error, and a job that has ended does not remove the file of
the next one**, also not while it is written. -/
def Filed (s : State) : Event → Prop
  | .removeJob job ok => ok = true → Own s job
  | .apply ok => ∀ pc ∈ s.apply, pc.saves = true → ok = true
  | _ => True

/-- The job of a `startApply` that has set the status. -/
def ApplyPc.job : ApplyPc → Option Job
  | .saveOpen job | .saveWrite job | .watch job => some job
  | _ => none

/-- The agent has the job somewhere. -/
def State.Knows (s : State) (job : Job) : Prop :=
  job ∈ s.watchers ∨ (∃ f ∈ s.findings, f.job = job) ∨ job ∈ s.removing ∨ s.jobFile = .saved job ∨
    ∃ pc ∈ s.apply, pc.job = some job

/-- **Scripts are numbered as they are started**, and an agent that is down has nothing in
memory. -/
structure Numbered (s : State) : Prop where
  known : ∀ job, s.Knows job → job.script < s.started
  script : ∀ packages n, s.apply = some (.setStatus packages n) → n < s.started
  down : s.up = false → s.apply = none ∧ s.watchers = [] ∧ s.findings = [] ∧ s.removing = [] ∧
    s.jobStatus = .idle

/-- What is kept while the job file is only removed by its own job. -/
structure Recording (s : State) : Prop where
  file : s.up = true → ∀ job, s.jobStatus = .running job →
    s.apply = none ∨ s.apply = some (.watch job) → s.jobFile = .saved job
  writing : ∀ job, s.apply = some (.saveWrite job) → s.jobFile = .truncated
  busy : ∀ pc, s.apply = some pc → ∀ job, s.jobStatus = .running job ↔ pc.job = some job
  fresh : ∀ packages n, s.apply = some (.setStatus packages n) → ∀ job ∈ s.removing, job.script ≠ n
  removing : ∀ job ∈ s.removing, s.jobStatus ≠ .running job

theorem Numbered.init : Numbered State.init where
  known job h := by simp [State.Knows, State.init] at h
  script := nofun
  down := nofun

theorem Recording.init : Recording State.init where
  file := nofun
  writing := nofun
  busy := nofun
  fresh := nofun
  removing := nofun

section Recording

variable {systemd : Bool} {s s' : State} {e : Event}

/-- An agent that does something is up. -/
theorem Numbered.up_of_busy (hs : Numbered s)
    (h : s.apply ≠ none ∨ s.watchers ≠ [] ∨ s.findings ≠ [] ∨ s.removing ≠ []) : s.up = true := by
  by_contra hup
  obtain ⟨happly, hwatchers, hfindings, hremoving, -⟩ := hs.down (by simpa using hup)
  rcases h with h | h | h | h
  · exact h happly
  · exact h hwatchers
  · exact h hfindings
  · exact h hremoving

theorem Numbered.up {pc : ApplyPc} (hs : Numbered s) (hpc : s.apply = some pc) : s.up = true :=
  hs.up_of_busy (.inl (by simp [hpc]))

theorem Numbered.up_of_mem_watchers {job : Job} (hs : Numbered s) (hjob : job ∈ s.watchers) :
    s.up = true :=
  hs.up_of_busy (.inr (.inl (List.ne_nil_of_mem hjob)))

theorem Numbered.up_of_mem_findings {f : Finding} (hs : Numbered s) (hf : f ∈ s.findings) :
    s.up = true :=
  hs.up_of_busy (.inr (.inr (.inl (List.ne_nil_of_mem hf))))

theorem Numbered.up_of_mem_removing {job : Job} (hs : Numbered s) (hjob : job ∈ s.removing) :
    s.up = true :=
  hs.up_of_busy (.inr (.inr (.inr (List.ne_nil_of_mem hjob))))

theorem Numbered.of_up (hup : s.up = true) (hknown : ∀ job, s.Knows job → job.script < s.started)
    (hscript : ∀ packages n, s.apply = some (.setStatus packages n) → n < s.started) :
    Numbered s :=
  ⟨hknown, hscript, fun h => nomatch hup.symm.trans h⟩

theorem Numbered.applyStep {pc : ApplyPc} {ok : Bool} (hs : Numbered s) (hpc : s.apply = some pc) :
    Numbered (PkgUpdate.applyStep systemd s ok pc) := by
  have hup := hs.up hpc
  cases pc with
  | removeExit packages =>
    refine .of_up hup (fun job h => hs.known job ?_) nofun
    simpa [PkgUpdate.applyStep, State.Knows, ApplyPc.job, hpc] using h
  | start packages =>
    cases ok with
    | true =>
      refine .of_up hup (fun job h => Nat.lt_succ_of_lt (hs.known job ?_)) fun ps n h => ?_
      · simpa [PkgUpdate.applyStep, State.Knows, ApplyPc.job, hpc] using h
      · obtain ⟨-, rfl⟩ := ApplyPc.setStatus.inj (Option.some.inj h)
        exact Nat.lt_succ_self _
    | false =>
      refine .of_up hup (fun job h => hs.known job ?_) nofun
      simpa [PkgUpdate.applyStep, State.Knows, ApplyPc.job, hpc] using h
  | setStatus packages n =>
    refine .of_up hup (fun job h => ?_) nofun
    have hn := hs.script packages n hpc
    have hknown := hs.known job
    simp only [PkgUpdate.applyStep, State.Knows, Option.mem_def, Option.some.injEq, exists_eq_left',
      ApplyPc.job, hpc, reduceCtorEq, or_false] at h hknown ⊢
    rcases h with h | h | h | h | rfl
    · exact hknown (.inl h)
    · exact hknown (.inr (.inl h))
    · exact hknown (.inr (.inr (.inl h)))
    · exact hknown (.inr (.inr (.inr h)))
    · exact hn
  | saveOpen job =>
    cases ok with
    | true =>
      refine .of_up hup (fun job' h => hs.known job' ?_) nofun
      simp only [PkgUpdate.applyStep, State.Knows, Option.mem_def, Option.some.injEq,
        exists_eq_left', ApplyPc.job, hpc, reduceCtorEq, if_true, false_or] at h ⊢
      exact h.imp_right (·.imp_right (·.imp_right .inr))
    | false =>
      refine .of_up hup (fun job' h => hs.known job' ?_) nofun
      simpa [PkgUpdate.applyStep, State.Knows, ApplyPc.job, hpc] using h
  | saveWrite job =>
    refine .of_up hup (fun job' h => hs.known job' ?_) nofun
    simp only [PkgUpdate.applyStep, State.Knows, Option.mem_def, Option.some.injEq,
      exists_eq_left', ApplyPc.job, hpc] at h ⊢
    split_ifs at h
    · simp only [JobFile.saved.injEq, or_self] at h
      exact h.imp_right (·.imp_right (·.imp_right .inr))
    · exact h
  | watch job =>
    refine .of_up hup (fun job' h => hs.known job' ?_) nofun
    simp only [PkgUpdate.applyStep, State.Knows, Option.mem_def, Option.some.injEq, List.mem_cons,
      exists_eq_left', ApplyPc.job, hpc, reduceCtorEq, false_and, exists_false, or_false] at h ⊢
    rcases h with (rfl | h) | h
    · exact .inr (.inr (.inr (.inr rfl)))
    · exact .inl h
    · exact .inr (h.imp_right (·.imp_right .inl))

/-- What a `startApply` does up to its first effect: it fails, or it goes on. -/
theorem cases_of_startApply {updates : List PackageUpdate} {req : ApplyPackageUpdatesRequest}
    {argv : Except String (List String)}
    (h : PkgUpdate.step systemd s (.startApply updates req argv) = some s') :
    s.up ∧ s.apply = none ∧ (s' = s ∨
      ∃ packages, checkApply updates s.jobStatus req argv = .ok packages ∧
        s' = { s with apply := some (.removeExit packages) }) := by
  obtain ⟨⟨hup, happly⟩, h⟩ := Option.ite_none_right_eq_some.mp h
  refine ⟨hup, happly, ?_⟩
  split at h <;> obtain rfl := Option.some.inj h
  · exact .inl rfl
  · exact .inr ⟨_, ‹_›, rfl⟩

/-- A poll changes nothing, or the job moves from the watchers to the findings. -/
theorem pollStep_cases (s : State) (job : Job) :
    pollStep s job = s ∨ ∃ exit, pollStep s job =
      { s with watchers := s.watchers.erase job, findings := ⟨job, exit⟩ :: s.findings } := by
  unfold pollStep
  split
  · exact .inr ⟨_, rfl⟩
  · split_ifs
    · exact .inr ⟨_, rfl⟩
    · exact .inl rfl

theorem Numbered.poll {job : Job} (hs : Numbered s) (hjob : job ∈ s.watchers) :
    Numbered (pollStep s job) := by
  obtain hpoll | ⟨exit, hpoll⟩ := pollStep_cases s job <;> rw [hpoll]
  · exact hs
  · refine ⟨fun job' h => hs.known job' ?_, hs.script, fun h => ?_⟩
    · rcases h with h | ⟨f, hf, rfl⟩ | h
      · exact .inl (List.mem_of_mem_erase h)
      · rcases List.mem_cons.mp hf with rfl | hf
        · exact .inl hjob
        · exact .inr (.inl ⟨f, hf, rfl⟩)
      · exact .inr (.inr h)
    · exact nomatch (hs.up_of_mem_watchers hjob).symm.trans h

theorem Numbered.recover (hs : Numbered s) (hdown : s.up = false) : Numbered (recover s) := by
  obtain ⟨happly, hwatchers, -⟩ := hs.down hdown
  unfold PkgUpdate.recover
  split
  case h_1 => exact ⟨hs.known, hs.script, nofun⟩
  case h_2 =>
    refine ⟨fun job h => hs.known job ?_, hs.script, nofun⟩
    exact h.imp_right (·.imp_right (·.imp_right fun h => .inr (h.resolve_left nofun)))
  case h_3 job hfile =>
    refine ⟨fun job' h => hs.known job' ?_, hs.script, nofun⟩
    rcases h with h | h
    · obtain rfl := List.mem_singleton.mp h
      exact .inr (.inr (.inr (.inl hfile)))
    · exact .inr h

theorem Numbered.step (hs : Numbered s) (h : PkgUpdate.step systemd s e = some s') :
    Numbered s' := by
  cases e with
  | advance ms =>
    obtain rfl := Option.some.inj h
    exact { hs with }
  | startApply updates req argv =>
    obtain ⟨hup, happly, rfl | ⟨packages, -, rfl⟩⟩ := cases_of_startApply h
    · exact hs
    · refine .of_up hup (fun job h => hs.known job ?_) nofun
      simpa [State.Knows, ApplyPc.job, happly] using h
  | apply ok =>
    obtain ⟨pc, hpc, rfl⟩ := Option.map_eq_some_iff.mp h
    exact hs.applyStep hpc
  | poll job =>
    obtain ⟨hjob, rfl⟩ := guard_eq_some h
    exact hs.poll hjob
  | finalizeJob f =>
    obtain ⟨⟨hf, happly⟩, rfl⟩ := guard_eq_some h
    refine ⟨fun job h => hs.known job ?_, hs.script, fun h => ?_⟩
    · rcases h with h | ⟨f', hf', rfl⟩ | h | h
      · exact .inl h
      · exact .inr (.inl ⟨f', List.mem_of_mem_erase hf', rfl⟩)
      · rcases List.mem_cons.mp h with rfl | h
        · exact .inr (.inl ⟨f, hf, rfl⟩)
        · exact .inr (.inr (.inl h))
      · exact .inr (.inr (.inr h))
    · exact nomatch (hs.up_of_mem_findings hf).symm.trans h
  | removeJob job ok =>
    obtain ⟨hjob, rfl⟩ := guard_eq_some h
    refine ⟨fun job' h => hs.known job' ?_, hs.script, fun h => ?_⟩
    · rcases h with h | h | h | h | h
      · exact .inl h
      · exact .inr (.inl h)
      · exact .inr (.inr (.inl (List.mem_of_mem_erase h)))
      · cases ok with
        | true => cases h
        | false => exact .inr (.inr (.inr (.inl h)))
      · exact .inr (.inr (.inr (.inr h)))
    · exact nomatch (hs.up_of_mem_removing hjob).symm.trans h
  | crash =>
    obtain ⟨-, rfl⟩ := guard_eq_some h
    refine ⟨fun job h => hs.known job ?_, nofun, fun _ => ⟨rfl, rfl, rfl, rfl, rfl⟩⟩
    exact .inr (.inr (.inr (.inl (by simpa [State.Knows, State.crashed] using h))))
  | recoverJob =>
    obtain ⟨hdown, h⟩ := Option.ite_none_left_eq_some.mp h
    obtain rfl := Option.some.inj h
    exact hs.recover (by simpa using hdown)
  | launch n | lost n | openExit n | writeExit n code | ended script =>
    obtain ⟨-, rfl⟩ := guard_eq_some h
    exact { hs with }

/-- `startApply` goes on only if no job is running. -/
theorem not_running_of_checkApply {updates : List PackageUpdate} {status : JobStatus}
    {req : ApplyPackageUpdatesRequest} {argv : Except String (List String)} {packages : List String}
    (h : checkApply updates status req argv = .ok packages) (job : Job) :
    status ≠ .running job := by
  rintro rfl
  unfold checkApply at h
  cases hps : packagesOf updates req with
  | error err => simp [hps, Except.bind] at h
  | ok ps =>
    simp only [hps, Except.bind] at h
    split at h <;> cases h

theorem Finding.status_ne_running (f : Finding) (job : Job) : f.status ≠ .running job := by
  unfold Finding.status
  split <;> exact nofun

theorem Recording.applyStep {pc : ApplyPc} {ok : Bool} (hn : Numbered s) (hs : Recording s)
    (hpc : s.apply = some pc) (hok : pc.saves = true → ok = true) :
    Recording (PkgUpdate.applyStep systemd s ok pc) := by
  have hbusy := hs.busy pc hpc
  cases pc with
  | removeExit packages =>
    refine ⟨nofun, nofun, fun pc h job => ?_, nofun, hs.removing⟩
    obtain rfl := Option.some.inj h
    exact hbusy job
  | start packages =>
    cases ok with
    | true =>
      refine ⟨nofun, nofun, fun pc h job => ?_, fun ps n h job hjob => ?_, hs.removing⟩
      · obtain rfl := Option.some.inj h
        exact hbusy job
      · obtain ⟨-, rfl⟩ := ApplyPc.setStatus.inj (Option.some.inj h)
        exact (hn.known job (.inr (.inr (.inl hjob)))).ne
    | false =>
      refine ⟨fun _ job hjob _ => ?_, nofun, nofun, nofun, hs.removing⟩
      exact nomatch (hbusy job).mp hjob
  | setStatus packages n =>
    refine ⟨nofun, nofun, fun pc h job => ?_, nofun, fun job hjob h => ?_⟩
    · obtain rfl := Option.some.inj h
      exact ⟨fun h => congrArg some (JobStatus.running.inj h),
        fun h => congrArg JobStatus.running (Option.some.inj h)⟩
    · obtain rfl := JobStatus.running.inj h
      exact hs.fresh packages n hpc _ hjob rfl
  | saveOpen job =>
    obtain rfl := hok rfl
    refine ⟨nofun, fun _ _ => rfl, fun pc h job => ?_, nofun, hs.removing⟩
    obtain rfl := Option.some.inj h
    exact hbusy job
  | saveWrite job =>
    obtain rfl := hok rfl
    have hsaved : (PkgUpdate.applyStep systemd s true (.saveWrite job)).jobFile = .saved job := by
      simp [PkgUpdate.applyStep, hs.writing job hpc]
    refine ⟨fun _ job' h _ => ?_, nofun, fun pc h job => ?_, nofun, hs.removing⟩
    · obtain rfl := Option.some.inj ((hbusy job').mp h)
      exact hsaved
    · obtain rfl := Option.some.inj h
      exact hbusy job
  | watch job =>
    refine ⟨fun hup job' h _ => ?_, nofun, nofun, nofun, hs.removing⟩
    obtain rfl := Option.some.inj ((hbusy job').mp h)
    exact hs.file hup job h (.inr hpc)

theorem Recording.step (hn : Numbered s) (hs : Recording s) (hok : Filed s e)
    (h : PkgUpdate.step systemd s e = some s') : Recording s' := by
  cases e with
  | advance ms =>
    obtain rfl := Option.some.inj h
    exact { hs with }
  | startApply updates req argv =>
    obtain ⟨-, -, rfl | ⟨packages, hcheck, rfl⟩⟩ := cases_of_startApply h
    · exact hs
    · refine ⟨nofun, nofun, fun pc h job => ?_, nofun, hs.removing⟩
      obtain rfl := Option.some.inj h
      exact ⟨fun h => absurd h (not_running_of_checkApply hcheck job), nofun⟩
  | apply ok =>
    obtain ⟨pc, hpc, rfl⟩ := Option.map_eq_some_iff.mp h
    exact hs.applyStep hn hpc (hok pc hpc)
  | poll job =>
    obtain ⟨hjob, rfl⟩ := guard_eq_some h
    obtain hpoll | ⟨exit, hpoll⟩ := pollStep_cases s job <;> rw [hpoll]
    · exact hs
    · exact { hs with }
  | finalizeJob f =>
    obtain ⟨⟨hf, happly⟩, rfl⟩ := guard_eq_some h
    refine ⟨fun _ job h => ?_, hs.writing, fun pc h => ?_, fun ps n h => ?_, fun job _ => ?_⟩
    · exact absurd h (f.status_ne_running job)
    · exact nomatch happly.symm.trans h
    · exact nomatch happly.symm.trans h
    · exact f.status_ne_running job
  | removeJob job ok =>
    obtain ⟨hjob, rfl⟩ := guard_eq_some h
    have hfresh ps n (h : s.apply = some (.setStatus ps n)) job'
        (hj : job' ∈ s.removing.erase job) :=
      hs.fresh ps n h job' (List.mem_of_mem_erase hj)
    have hremoving job' (hj : job' ∈ s.removing.erase job) :=
      hs.removing job' (List.mem_of_mem_erase hj)
    cases ok with
    | false => exact ⟨hs.file, hs.writing, hs.busy, hfresh, hremoving⟩
    | true =>
      have hown := hok rfl
      unfold Own at hown
      refine ⟨fun hup job' h hpc => ?_, fun job' h => ?_, hs.busy, hfresh, hremoving⟩
      · rw [hs.file hup job' h hpc] at hown
        obtain rfl := hown.resolve_right (· h)
        exact absurd h (hs.removing job' hjob)
      · rw [hs.writing job' h] at hown
        exact hown.elim
  | crash =>
    obtain ⟨-, rfl⟩ := guard_eq_some h
    exact ⟨nofun, nofun, nofun, nofun, nofun⟩
  | recoverJob =>
    obtain ⟨hdown, h⟩ := Option.ite_none_left_eq_some.mp h
    obtain rfl := Option.some.inj h
    obtain ⟨happly, -, -, hremoving, hidle⟩ := hn.down (by simpa using hdown)
    unfold recover
    split
    case h_1 =>
      refine ⟨fun _ job h => ?_, hs.writing, hs.busy, hs.fresh, hs.removing⟩
      exact nomatch hidle.symm.trans h
    case h_2 =>
      refine ⟨fun _ job h => ?_, fun job h => ?_, hs.busy, hs.fresh, hs.removing⟩
      · exact nomatch hidle.symm.trans h
      · exact nomatch happly.symm.trans h
    case h_3 job hfile =>
      refine ⟨fun _ job' h _ => ?_, hs.writing, fun pc h => ?_, hs.fresh, fun job h => ?_⟩
      · obtain rfl := JobStatus.running.inj h
        exact hfile
      · exact nomatch happly.symm.trans h
      · rw [hremoving] at h
        cases h
  | launch n | lost n | openExit n | writeExit n code | ended script =>
    obtain ⟨-, rfl⟩ := guard_eq_some h
    exact { hs with }

/-- **The running job is on disk in every run in which the job file is only removed by its own
job.** -/
theorem recorded_of_along {es : List Event} (hok : Along (PkgUpdate.step systemd) Filed .init es)
    (hr : run (PkgUpdate.step systemd) .init es = some s) : Recorded s := by
  obtain ⟨-, hs⟩ : Numbered s ∧ Recording s :=
    inv_of_along (I := fun s => Numbered s ∧ Recording s)
      (fun hs hok h => ⟨hs.1.step h, hs.2.step hs.1 hok h⟩) ⟨.init, .init⟩ hok hr
  intro hup happly job hjob
  have hfile := hs.file hup job hjob (.inl happly)
  refine ⟨hfile, ?_⟩
  have hcrashed : s.crashed.jobFile = .saved job := hfile
  rw [recover, hcrashed]

end Recording

instance (s : State) (job : Job) : Decidable (Own s job) :=
  match hfile : s.jobFile with
  | .absent => .isTrue (by simp [Own, hfile])
  | .truncated => .isFalse (by simp [Own, hfile])
  | .saved job' =>
    decidable_of_iff (job' = job ∨ s.jobStatus ≠ .running job') (by simp [Own, hfile])

instance (s : State) : ∀ e, Decidable (Filed s e)
  | .removeJob job ok => inferInstanceAs (Decidable (ok = true → Own s job))
  | .apply ok => inferInstanceAs (Decidable (∀ pc ∈ s.apply, pc.saves = true → ok = true))
  | .advance _ | .startApply _ _ _ | .poll _ | .finalizeJob _ | .crash | .recoverJob | .launch _
  | .lost _ | .openExit _ | .writeExit _ _ | .ended _ => .isTrue trivial

/-- A `startApply` of one package, to its end. -/
def start (pkg : String) : List Event :=
  .startApply [] ⟨[pkg], false, false⟩ (.ok ["apt-get", "install", "-y", pkg]) ::
    List.replicate 6 (.apply true)

/-- The script writes its exit code, the watcher reads it and `finalizeJob` sets the status. -/
def finish (job : Job) (code : ℕ) : List Event :=
  [.openExit job.script, .writeExit job.script code, .poll job,
    .finalizeJob ⟨job, some ⟨job.script, some code⟩⟩]

/-- A second job runs, and the agent restarts. -/
theorem recorded_of_along_restarted :
    ∃ s, run (step false) State.init (start "bash" ++ finish ⟨["bash"], 0, 0⟩ 0 ++
          .removeJob ⟨["bash"], 0, 0⟩ true :: start "curl" ++ [.crash, .recoverJob]) = some s ∧
      (s.jobStatus = .running ⟨["curl"], 0, 1⟩ ∧ s.up ∧ s.apply = none) ∧ Recorded s := by
  have hok : Along (step false) Filed State.init
      (start "bash" ++ finish ⟨["bash"], 0, 0⟩ 0 ++
        .removeJob ⟨["bash"], 0, 0⟩ true :: start "curl" ++ [.crash, .recoverJob]) := by
    decide +kernel
  exact ⟨_, rfl, by decide +kernel, recorded_of_along hok rfl⟩

/-- **The first job removes the file of the second**: `finalizeJob` has released the lock. -/
theorem not_recorded_removed :
    ∃ s, run (step false) State.init (start "bash" ++ finish ⟨["bash"], 0, 0⟩ 0 ++ start "curl" ++
          [.removeJob ⟨["bash"], 0, 0⟩ true]) = some s ∧ ¬ Recorded s := by
  refine ⟨_, rfl, fun h => ?_⟩
  exact absurd (h rfl rfl ⟨["curl"], 0, 1⟩ (by decide +kernel)).1 (by decide +kernel)

end PkgUpdate

end Beszel
