import Beszel.Agent.PkgUpdate
import Beszel.Machinery.Paths
import Beszel.Machinery.Shell

/-!
# Agent/PkgApply — the script that installs updates

    request ──checks──▸ packages ──▸ argv ──▸ script ──▸ sh -c

`ApplyPackageUpdatesHandler` of `agent/handlers.go` and `startApply` of `agent/pkgupdate.go`, up to
the job that is saved.  The script is made of words, and of two paths in single quotes;
`Shell.parse` reads it.
-/

namespace Beszel

open Machinery

namespace PkgApply

open PkgUpdate (PackageUpdate JobStatus StartError validPackageName checkApply)

/-! ## Commands -/

/-- `packageManagerKind`. -/
inductive PackageManagerKind
  | none
  | apt
  | dnf
  | apk
  | pacman
  deriving DecidableEq, Repr

/-- The user, what is in the path, the variable `UPDATE_APPLY_WRAPPER`, and how the start of a
command comes out. -/
structure Host where
  euid : ℕ
  hasDnf : Bool
  wrapper : Option String
  systemd : Bool
  hasSystemdRun : Bool
  startError : Option String
  deriving DecidableEq, Repr

def errUnsupported : String := "unsupported operation"

/-- `defaultApplyWrapperPath`. -/
def defaultApplyWrapperPath : String := "/usr/local/bin/beszel-apply-updates"

/-- `dnf`, or `yum` where there is none. -/
def dnfBin (host : Host) : String := if host.hasDnf then "dnf" else "yum"

/-- `fullUpgradeArgv`. -/
def fullUpgradeArgv (host : Host) : PackageManagerKind → Except String (List String)
  | .apt => .ok ["apt-get", "upgrade", "--with-new-pkgs", "-y"]
  | .dnf => .ok [dnfBin host, "update", "-y"]
  | .apk => .ok ["apk", "upgrade"]
  | .pacman => .ok ["pacman", "-Syu", "--noconfirm"]
  | .none => .error errUnsupported

/-- The wrapper that unprivileged agents use. -/
def wrapperPath (host : Host) : String :=
  match host.wrapper with
  | some wrapper => if wrapper = "" then defaultApplyWrapperPath else wrapper
  | none => defaultApplyWrapperPath

/-- `applyArgv`. -/
def applyArgv (host : Host) (kind : PackageManagerKind) : Except String (List String) :=
  if host.euid ≠ 0 then .ok ["sudo", "-n", wrapperPath host]
  else
    match kind with
    | .apt => .ok ["apt-get", "install", "--only-upgrade", "-y"]
    | .dnf => .ok [dnfBin host, "update", "-y"]
    | .apk => .ok ["apk", "add", "-u"]
    | .pacman => .ok ["pacman", "-S", "--noconfirm"]
    | .none => .error errUnsupported

/-- The package manager upgrades everything by itself. -/
def native (host : Host) (req : ApplyPackageUpdatesRequest) : Bool :=
  req.all && !req.securityOnly && decide (host.euid = 0)

/-- The command of a request, without packages. -/
def commandOf (host : Host) (kind : PackageManagerKind) (req : ApplyPackageUpdatesRequest) :
    Except String (List String) :=
  if native host req then fullUpgradeArgv host kind else applyArgv host kind

/-! ## `startApply` -/

/-- `pkgUpdateManager`. -/
structure Manager where
  kind : PackageManagerKind
  updates : List PackageUpdate
  jobDir : Shell.Text
  jobStatus : JobStatus

def Manager.applyLogPath (pm : Manager) : Shell.Text :=
  Paths.join [pm.jobDir, "pkg-apply.log".toList]

def Manager.applyExitPath (pm : Manager) : Shell.Text :=
  Paths.join [pm.jobDir, "pkg-apply.exit".toList]

def Manager.jobPath (pm : Manager) : Shell.Text :=
  Paths.join [pm.jobDir, "pkg-apply.json".toList]

/-- The script for a command. -/
def Manager.script (pm : Manager) (argv : List String) : Shell.Text :=
  "export DEBIAN_FRONTEND=noninteractive; ".toList ++
    [' '].intercalate (argv.map String.toList) ++
    " > '".toList ++ pm.applyLogPath ++ "' 2>&1; echo $? > '".toList ++ pm.applyExitPath ++
    "'".toList

/-- What `startApply` does to files and processes. -/
inductive Effect
  | remove (path : Shell.Text)
  | start (argv : List Shell.Text)
  | saveJob (path : Shell.Text) (packages : List String)
  deriving DecidableEq, Repr

/-- What a request is refused or fails with. -/
inductive ApplyError
  | unsupported
  | unmarshal (err : String)
  | noPackages
  | refused (err : StartError)
  | notStarted (err : String)
  deriving DecidableEq, Repr

/-- The command that runs a script: in a unit of its own, if there is `systemd-run`. -/
def launcher (host : Host) (script : Shell.Text) : List Shell.Text :=
  (if host.systemd && host.hasSystemdRun then
    ["systemd-run", "--collect", "--quiet", "--unit=beszel-pkg-apply", "--property=Type=oneshot",
      "--property=RuntimeMaxSec=" ++ toString (PkgUpdate.applyJobTimeout / 1000)].map String.toList
  else []) ++ ["sh".toList, "-c".toList, script]

/-- The packages of a command: none if the package manager upgrades everything. -/
def namesOf (host : Host) (req : ApplyPackageUpdatesRequest) (packages : List String) :
    List String :=
  if native host req then [] else packages

/-- `startApply`, from the removal of the old files on. -/
def launch (host : Host) (pm : Manager) (packages : List String) (script : Shell.Text) :
    List Effect × Except ApplyError (List String) :=
  let removed : List Effect := [.remove pm.applyExitPath, .remove pm.applyLogPath]
  match host.startError with
  | some err => (removed, .error (.notStarted err))
  | none =>
    (removed ++ [.start (launcher host script), .saveJob pm.jobPath packages], .ok packages)

/-- `startApply`: what it does, and the packages of the job that it answers with. -/
def startApply (host : Host) (pm : Manager) (req : ApplyPackageUpdatesRequest) :
    List Effect × Except ApplyError (List String) :=
  match checkApply pm.updates pm.jobStatus req (commandOf host pm.kind req),
    commandOf host pm.kind req with
  | .ok packages, .ok command =>
    launch host pm packages (pm.script (command ++ namesOf host req packages))
  | .error err, _ => ([], .error (.refused err))
  | .ok _, .error err => ([], .error (.refused (.argv err)))

/-- `ApplyPackageUpdatesHandler.Handle`, of a request as it is decoded. -/
def handle (host : Host) (pm : Option Manager) (req : Except String ApplyPackageUpdatesRequest) :
    List Effect × Except ApplyError (List String) :=
  match pm, req with
  | none, _ => ([], .error .unsupported)
  | some _, .error err => ([], .error (.unmarshal err))
  | some pm, .ok req =>
    if req.packages = [] ∧ req.all = false then ([], .error .noPackages)
    else startApply host pm req

/-! ## The words of the script -/

variable {host : Host} {pm : Manager} {req : ApplyPackageUpdatesRequest}

/-- A valid name is a plain word. -/
theorem isPlain_of_valid {name : String} (h : validPackageName name = true) :
    Shell.IsPlain name.toList := by
  unfold validPackageName at h
  cases hname : name.toList with
  | nil =>
    rw [hname] at h
    cases h
  | cons c cs =>
    rw [hname, Bool.and_eq_true, List.all_eq_true] at h
    refine ⟨List.cons_ne_nil _ _, List.forall_mem_cons.mpr ⟨?_, fun d hd => ?_⟩⟩
    · unfold Shell.isPlain
      rw [h.1]
      rfl
    · have hplain := h.2 d hd
      unfold Shell.isPlain
      rw [Bool.or_eq_true, decide_eq_true_eq] at hplain ⊢
      exact hplain.imp_right fun hmem => List.Sublist.subset (by decide) hmem

/-- A word without quotes. -/
def plainWord (s : String) : Shell.Word := s.toList.map .plain

/-- A command of plain words, the first of which names one. -/
structure Runs (command : List String) : Prop where
  plain : ∀ word ∈ command, Shell.IsPlain word.toList
  name : (command.map plainWord).head?.any Shell.isName = true

theorem Runs.ne_nil {command : List String} (h : Runs command) : command ≠ [] := by
  rintro rfl
  exact Bool.false_ne_true h.name

instance (s : Shell.Text) : Decidable (Shell.IsPlain s) :=
  decidable_of_iff (s ≠ [] ∧ s.all Shell.isPlain = true)
    ⟨fun h => ⟨h.1, List.all_eq_true.mp h.2⟩, fun h => ⟨h.1, List.all_eq_true.mpr h.2⟩⟩

instance (command : List String) : Decidable (Runs command) :=
  decidable_of_iff ((∀ word ∈ command, Shell.IsPlain word.toList) ∧
      (command.map plainWord).head?.any Shell.isName = true)
    ⟨fun h => ⟨h.1, h.2⟩, fun h => ⟨h.1, h.2⟩⟩

theorem runs_fullUpgradeArgv {kind : PackageManagerKind} {command : List String}
    (h : fullUpgradeArgv host kind = .ok command) : Runs command := by
  unfold fullUpgradeArgv dnfBin at h
  cases kind with
  | none => cases h
  | dnf =>
    obtain rfl := Except.ok.inj h
    cases host.hasDnf <;> decide
  | apt | apk | pacman =>
    obtain rfl := Except.ok.inj h
    decide

theorem runs_applyArgv (hwrapper : Shell.IsPlain (wrapperPath host).toList)
    {kind : PackageManagerKind} {command : List String}
    (h : applyArgv host kind = .ok command) : Runs command := by
  unfold applyArgv at h
  by_cases heuid : host.euid ≠ 0
  · rw [if_pos heuid] at h
    obtain rfl := Except.ok.inj h
    refine ⟨?_, ?_⟩
    · simp only [List.forall_mem_cons]
      exact ⟨by decide, by decide, hwrapper, by decide⟩
    · change Shell.isName (plainWord "sudo") = true
      decide
  · rw [if_neg heuid] at h
    unfold dnfBin at h
    cases kind with
    | none => cases h
    | dnf =>
      obtain rfl := Except.ok.inj h
      cases host.hasDnf <;> decide
    | apt | apk | pacman =>
      obtain rfl := Except.ok.inj h
      decide

/-- **The commands of the package managers** are plain words. -/
theorem runs_commandOf (hwrapper : Shell.IsPlain (wrapperPath host).toList) {command : List String}
    (h : commandOf host pm.kind req = .ok command) : Runs command := by
  unfold commandOf at h
  split_ifs at h
  · exact runs_fullUpgradeArgv h
  · exact runs_applyArgv hwrapper h

/-- What the checks let through. -/
theorem checkApply_ok {argv : Except String (List String)} {packages : List String}
    (h : checkApply pm.updates pm.jobStatus req argv = .ok packages) :
    PkgUpdate.packagesOf pm.updates req = .ok packages ∧
      (∀ name ∈ packages, validPackageName name = true) ∧
      ∀ u ∈ pm.updates, u.held = true → u.name ∉ packages := by
  unfold checkApply at h
  cases hpackages : PkgUpdate.packagesOf pm.updates req with
  | error err =>
    rw [hpackages] at h
    cases h
  | ok names =>
    rw [hpackages] at h
    simp only [Except.bind] at h
    split at h
    · cases h
    · next hvalid =>
      split at h
      · cases h
      · split at h
        · cases h
        · next hheld =>
          split at h
          · cases h
          · obtain rfl := Except.ok.inj h
            refine ⟨rfl, fun name hname => ?_, fun u hu hu' hmem => ?_⟩
            · simpa using List.find?_eq_none.mp hvalid name hname
            · refine List.find?_eq_none.mp hheld u hu ?_
              rw [hu', Bool.true_and]
              exact decide_eq_true hmem

/-- The tokens of a command in the script. -/
def installTokens (pm : Manager) (argv : List String) : List Shell.Token :=
  (argv.map plainWord).map .word ++
    [.great 1, .word (pm.applyLogPath.map .quoted), .great 2, .ampersand, .word [.plain '1']]

/-- **The script is three commands.** -/
theorem lex_script {argv : List String} (hplain : ∀ word ∈ argv, Shell.IsPlain word.toList)
    (hne : argv ≠ []) (hdir : '\'' ∉ pm.jobDir) :
    Shell.lex (.out none false) (pm.script argv) = some
      ([.semicolon].intercalate
        [[.word (plainWord "export"), .word (plainWord "DEBIAN_FRONTEND=noninteractive")],
          installTokens pm argv,
          [.word (plainWord "echo"), .word [.status], .great 1,
            .word (pm.applyExitPath.map .quoted)]]) := by
  have hlog : '\'' ∉ pm.applyLogPath := Paths.notMem_join (by decide) (by decide) hdir (by decide)
  have hexit : '\'' ∉ pm.applyExitPath :=
    Paths.notMem_join (by decide) (by decide) hdir (by decide)
  have hexport (rest : Shell.Text) :
      Shell.lex (.out none false) ("export DEBIAN_FRONTEND=noninteractive; ".toList ++ rest) =
        (Shell.lex (.out none false) rest).map
          ([.word (plainWord "export"), .word (plainWord "DEBIAN_FRONTEND=noninteractive"),
            .semicolon] ++ ·) := by
    change Shell.lex _ ("export".toList ++ ' ' ::
      ("DEBIAN_FRONTEND=noninteractive".toList ++ ';' :: ' ' :: rest)) = _
    rw [Shell.lex_plain none false (by decide), Shell.lex_blank,
      Shell.lex_plain none false (by decide), Shell.lex_semicolon, Shell.lex_blank,
      Option.map_map, Option.map_map]
    rfl
  have hcopy (rest : Shell.Text) :
      Shell.lex (.out (some (pm.applyLogPath.map .quoted)) false) (" 2>&1; ".toList ++ rest) =
        (Shell.lex (.out none false) rest).map
          ([.word (pm.applyLogPath.map .quoted), .great 2, .ampersand, .word [.plain '1'],
            .semicolon] ++ ·) := by
    change Shell.lex _ (' ' :: (['2'] ++ '>' :: '&' :: (['1'] ++ ';' :: ' ' :: rest))) = _
    rw [Shell.lex_blank, Shell.lex_plain none false (by decide), Shell.lex_great,
      Shell.lex_ampersand, Shell.lex_plain none false (by decide), Shell.lex_semicolon,
      Shell.lex_blank, Option.map_map, Option.map_map, Option.map_map, Option.map_map]
    rfl
  have hrecord : Shell.lex (.out none false)
      ("echo $? > '".toList ++ (pm.applyExitPath ++ ['\''])) =
        some [.word (plainWord "echo"), .word [.status], .great 1,
          .word (pm.applyExitPath.map .quoted)] := by
    change Shell.lex _ ("echo".toList ++ ' ' :: '$' :: '?' :: ' ' :: '>' :: ' ' :: '\'' ::
      (pm.applyExitPath ++ ['\''])) = _
    rw [Shell.lex_plain none false (by decide), Shell.lex_blank, Shell.lex_status,
      Shell.lex_blank, Shell.lex_great, Shell.lex_blank, Shell.lex_quote false hexit]
    rfl
  have hscript : pm.script argv = "export DEBIAN_FRONTEND=noninteractive; ".toList ++
      ([' '].intercalate (argv.map String.toList) ++ ' ' :: '>' :: ' ' :: '\'' ::
        (pm.applyLogPath ++ '\'' :: (" 2>&1; ".toList ++
          ("echo $? > '".toList ++ (pm.applyExitPath ++ ['\'']))))) := by
    unfold Manager.script
    simp only [List.append_assoc]
    rfl
  have hwords : ∀ s ∈ argv.map String.toList, Shell.IsPlain s := by
    rw [List.forall_mem_map]
    exact hplain
  rw [hscript, hexport, Shell.lex_words hwords (mt List.map_eq_nil_iff.mp hne), Shell.lex_great,
    Shell.lex_blank, Shell.lex_quote false hlog, hcopy, hrecord]
  rw [List.intercalate_cons_cons, List.intercalate_cons_cons, List.intercalate_singleton,
    List.map_map]
  unfold installTokens
  simp only [Option.map_some, List.append_assoc, List.map_map]
  rfl

/-- What the script runs: the environment, the command with its output, and the record of how it
comes out. -/
def commands (pm : Manager) (argv : List String) (status : Shell.Text) :
    List (Shell.Command Shell.Text) :=
  [⟨["export".toList, "DEBIAN_FRONTEND=noninteractive".toList], []⟩,
    ⟨argv.map String.toList, [.file 1 pm.applyLogPath, .copy 2 ['1']]⟩,
    ⟨["echo".toList, status], [.file 1 pm.applyExitPath]⟩]

/-- **The shell runs one command**, and its words are those that were joined. -/
theorem parse_script {command names : List String} (hcommand : Runs command)
    (hnames : ∀ name ∈ names, validPackageName name = true) (hdir : '\'' ∉ pm.jobDir)
    (status : Shell.Text) :
    (Shell.parse (pm.script (command ++ names))).map (List.map (·.expand status)) =
      some (commands pm (command ++ names) status) := by
  have hplain : ∀ word ∈ command ++ names, Shell.IsPlain word.toList := by
    intro word hword
    rcases List.mem_append.mp hword with h | h
    · exact hcommand.plain word h
    · exact isPlain_of_valid (hnames word h)
  obtain ⟨first, rest, rfl⟩ := List.exists_cons_of_ne_nil hcommand.ne_nil
  have hinstall : Shell.simpleCommand (installTokens pm (first :: rest ++ names)) =
      some ⟨(first :: rest ++ names).map plainWord,
        [.file 1 (pm.applyLogPath.map .quoted), .copy 2 [.plain '1']]⟩ :=
    Shell.simpleCommand_words rfl hcommand.name
  have hexport : Shell.simpleCommand
      [.word (plainWord "export"), .word (plainWord "DEBIAN_FRONTEND=noninteractive")] =
        some ⟨[plainWord "export", plainWord "DEBIAN_FRONTEND=noninteractive"], []⟩ := by decide
  have hrecord : Shell.simpleCommand [.word (plainWord "echo"), .word [.status], .great 1,
      .word (pm.applyExitPath.map .quoted)] =
        some ⟨[plainWord "echo", [.status]], [.file 1 (pm.applyExitPath.map .quoted)]⟩ := rfl
  have hwords : ((first :: rest ++ names).map plainWord).map (Shell.expandWord status) =
      (first :: rest ++ names).map String.toList := by
    rw [List.map_map]
    exact List.map_congr_left fun word _ => Shell.expandWord_plain status word.toList
  rw [Shell.parse_eq (lex_script hplain (List.cons_ne_nil _ _) hdir) (List.cons_ne_nil _ _) ?_]
  · rw [List.mapM_cons, hexport, List.mapM_cons, hinstall, List.mapM_cons, hrecord]
    change some [Shell.Command.expand status _, Shell.Command.expand status _,
      Shell.Command.expand status _] = _
    have hlog := Shell.expandWord_quoted status pm.applyLogPath
    have hexit := Shell.expandWord_quoted status pm.applyExitPath
    have hstatus : Shell.expandWord status [.status] = status := List.append_nil status
    unfold Shell.Command.expand commands
    simp only [List.map_cons, List.map_nil, Shell.Redirect.map, hlog, hexit, hstatus]
    rw [hwords]
    rfl
  · simp [installTokens]

/-! ## Requests -/

/-- The request is turned down, before anything is done for it. -/
def ApplyError.Rejects : ApplyError → Prop
  | .notStarted _ => False
  | _ => True

theorem startApply_cases (host : Host) (pm : Manager) (req : ApplyPackageUpdatesRequest) :
    (∃ err, startApply host pm req = ([], .error (.refused err))) ∨
      ∃ packages command,
        checkApply pm.updates pm.jobStatus req (commandOf host pm.kind req) = .ok packages ∧
          commandOf host pm.kind req = .ok command ∧
          startApply host pm req =
            launch host pm packages (pm.script (command ++ namesOf host req packages)) := by
  unfold startApply
  cases hcheck : checkApply pm.updates pm.jobStatus req (commandOf host pm.kind req) with
  | error err => exact .inl ⟨err, rfl⟩
  | ok packages =>
    cases hcommand : commandOf host pm.kind req with
    | error err => exact .inl ⟨.argv err, rfl⟩
    | ok command => exact .inr ⟨packages, command, rfl, rfl, rfl⟩

/-- A request is turned down, or `startApply` gets one that names packages or wants all. -/
theorem handle_cases (host : Host) (pm : Option Manager)
    (req : Except String ApplyPackageUpdatesRequest) :
    (∃ err : ApplyError, err.Rejects ∧ handle host pm req = ([], .error err)) ∨
      ∃ m r, pm = some m ∧ req = .ok r ∧ ¬(r.packages = [] ∧ r.all = false) ∧
        handle host pm req = startApply host m r := by
  unfold handle
  cases pm with
  | none => exact .inl ⟨.unsupported, trivial, rfl⟩
  | some m =>
    cases req with
    | error err => exact .inl ⟨.unmarshal err, trivial, rfl⟩
    | ok r =>
      by_cases hnone : r.packages = [] ∧ r.all = false
      · exact .inl ⟨.noPackages, trivial, if_pos hnone⟩
      · exact .inr ⟨m, r, rfl, rfl, hnone, if_neg hnone⟩

theorem packages_ne_nil {packages : List String}
    (h : PkgUpdate.packagesOf pm.updates req = .ok packages)
    (hreq : ¬(req.packages = [] ∧ req.all = false)) : packages ≠ [] := by
  unfold PkgUpdate.packagesOf at h
  cases hall : req.all with
  | true =>
    rw [if_pos hall] at h
    dsimp only at h
    split_ifs at h with hnil
    exact Except.ok.inj h ▸ hnil
  | false =>
    rw [hall, if_neg Bool.false_ne_true] at h
    exact Except.ok.inj h ▸ fun hnil => hreq ⟨hnil, hall⟩

/-- **The script of a request installs what it names, and nothing else.**  A request that is turned
down leaves everything as it is; for any other, the shell runs the command of the package manager
with the packages as its last words, all valid and none held, and records how it comes out. -/
theorem handle_safe (host : Host) (pm : Option Manager)
    (req : Except String ApplyPackageUpdatesRequest) (hdir : ∀ m ∈ pm, '\'' ∉ m.jobDir)
    (hwrapper : Shell.IsPlain (wrapperPath host).toList) :
    (∀ err, (handle host pm req).2 = .error err →
      (err.Rejects → (handle host pm req).1 = []) ∧
        ∀ argv, .start argv ∉ (handle host pm req).1) ∧
    ∀ packages, (handle host pm req).2 = .ok packages →
      ∃ m r command script, pm = some m ∧ req = .ok r ∧
        PkgUpdate.packagesOf m.updates r = .ok packages ∧
        commandOf host m.kind r = .ok command ∧
        (∀ name ∈ namesOf host r packages, validPackageName name = true ∧
          ∀ u ∈ m.updates, u.held = true → u.name ≠ name) ∧
        (namesOf host r packages = [] → native host r = true) ∧
        (handle host pm req).1 = [.remove m.applyExitPath, .remove m.applyLogPath,
          .start (launcher host script), .saveJob m.jobPath packages] ∧
        ∀ status, (Shell.parse script).map (List.map (·.expand status)) =
          some (commands m (command ++ namesOf host r packages) status) := by
  rcases handle_cases host pm req with ⟨err, -, heq⟩ | ⟨m, r, rfl, rfl, hreq, heq⟩
  · rw [heq]
    refine ⟨fun _ _ => ⟨fun _ => rfl, fun _ => List.not_mem_nil⟩, fun _ hok => ?_⟩
    cases hok
  rcases startApply_cases host m r with
    ⟨err, hstart⟩ | ⟨packages, command, hcheck, hcommand, hstart⟩
  · rw [heq, hstart]
    refine ⟨fun _ _ => ⟨fun _ => rfl, fun _ => List.not_mem_nil⟩, fun _ hok => ?_⟩
    cases hok
  obtain ⟨hpackages, hvalid, hheld⟩ := checkApply_ok hcheck
  have hnames : ∀ name ∈ namesOf host r packages, name ∈ packages := by
    unfold namesOf
    split_ifs
    · exact fun _ h => absurd h List.not_mem_nil
    · exact fun _ h => h
  rw [heq, hstart]
  unfold launch
  cases host.startError with
  | some err =>
    refine ⟨fun err herr => ⟨fun hrejects => ?_, ?_⟩, fun _ hok => ?_⟩
    · obtain rfl := Except.error.inj herr
      exact hrejects.elim
    · simp
    · cases hok
  | none =>
    refine ⟨fun _ herr => ?_, fun packages' hok => ?_⟩
    · cases herr
    obtain rfl := Except.ok.inj hok
    refine ⟨m, r, command, _, rfl, rfl, hpackages, hcommand, fun name hname => ⟨?_, ?_⟩,
      fun hnil => ?_, rfl, parse_script (runs_commandOf hwrapper hcommand) ?_ (hdir m rfl)⟩
    · exact hvalid name (hnames name hname)
    · rintro u hu hu' rfl
      exact hheld u hu hu' (hnames _ hname)
    · unfold namesOf at hnil
      by_contra hnot
      rw [if_neg hnot] at hnil
      exact packages_ne_nil hpackages hreq hnil
    · exact fun name hname => hvalid name (hnames name hname)

/-- An agent on Debian that runs as root. -/
def exampleHost : Host := ⟨0, false, none, true, true, none⟩

/-- `curl` can be updated, and `bash` is held. -/
def exampleManager : Manager where
  kind := .apt
  updates := [⟨"curl", false, false⟩, ⟨"bash", true, true⟩]
  jobDir := "/var/lib/beszel agent".toList
  jobStatus := .idle

/-- The package that a request names is installed. -/
theorem handle_safe_curl :
    (handle exampleHost (some exampleManager) (.ok ⟨["curl"], false, false⟩)).2 = .ok ["curl"] ∧
      ∃ script,
        .start (launcher exampleHost script) ∈
            (handle exampleHost (some exampleManager) (.ok ⟨["curl"], false, false⟩)).1 ∧
          (Shell.parse script).map (List.map (·.expand "100".toList)) =
            some (commands exampleManager
              ["apt-get", "install", "--only-upgrade", "-y", "curl"] "100".toList) := by
  have hok : (handle exampleHost (some exampleManager) (.ok ⟨["curl"], false, false⟩)).2 =
      .ok ["curl"] := by decide
  obtain ⟨m, r, command, script, hm, hr, -, hcommand, -, -, heffects, hparse⟩ :=
    (handle_safe exampleHost (some exampleManager) (.ok ⟨["curl"], false, false⟩)
      (fun m hm => Option.some.inj hm ▸ by decide) (by decide)).2 ["curl"] hok
  obtain rfl := Option.some.inj hm
  obtain rfl := Except.ok.inj hr
  obtain rfl := Except.ok.inj hcommand
  refine ⟨hok, script, ?_, hparse "100".toList⟩
  rw [heffects]
  simp

end PkgApply

end Beszel
