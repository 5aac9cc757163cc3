import Beszel.Agent.PkgApk
import Beszel.Machinery.Words
import Mathlib.Data.List.Infix

/-!
# Agent/PkgListings — the updates that `apt`, `dnf` and `pacman` list

    "linux/stable,stable-security 6.1-2 amd64 [upgradable from: 6.1-1]" ──▸ linux, 6.1-1 ▸ 6.1-2, !
    "kernel.x86_64    5.14.0-503.el9    baseos"                         ──▸ kernel, 5.14.0-503.el9
    "linux 6.9.1-1 -> 6.9.2-1"                                          ──▸ linux, 6.9.1-1 ▸ 6.9.2-1

`checkApt`, `checkDnf`, `checkPacman` and the two counts of `agent/pkgupdate.go`.  A listing is
written with rows and other lines, a row with words and any spaces between them; what is read from
it are the rows, all of them and in their order.  `dnf` ends with the packages that are made
obsolete, and nothing is read from there on.
-/

namespace Beszel

open Machinery

namespace PkgListings

open PkgRefresh (PackageUpdate)

/-! ## The parsers -/

/-- `aptHeldPackages`, from what `apt-mark showhold` prints, or its error. -/
def aptHeldPackages (out : Except String String) : List String :=
  match out with
  | .ok out => GoText.fields out
  | .error _ => []

/-- The loop body of `checkApt`. -/
def aptUpdate (held : List String) (text : String) : Option PackageUpdate :=
  let line := GoText.trimSpace text
  if line = "" ∨ GoText.hasStart line "Listing" then none
  else
    match GoText.fields line with
    | first :: available :: rest =>
      (GoText.splitTwo first "/").map fun (name, suites) =>
        let last := rest.getLast?.getD available
        { name := name
          security := GoText.contains suites "security"
          held := name ∈ held
          currentVersion :=
            if 6 ≤ rest.length + 2 ∧ GoText.hasEnd last "]" then GoText.trimEnd last "]" else ""
          availableVersion := available }
    | _ => none

/-- `checkApt`, from the lines that `apt list --upgradable` prints, or its error. -/
def checkApt (out : Except String (List String)) (showhold : Except String String) :
    Except String (List PackageUpdate) :=
  out.map (·.filterMap (aptUpdate (aptHeldPackages showhold)))

/-- How a command ended that did not exit with zero. -/
inductive CommandError
  | exit (code : ℤ)
  | other (err : String)
  deriving DecidableEq

/-- The lines that a command printed, and its error. -/
structure CommandResult where
  out : List String
  err : Option CommandError

/-- The name without what follows its last dot, unless that is all. -/
def dnfName (name : List Char) : List Char :=
  match name.reverse.dropWhile (· ≠ '.') with
  | _ :: rest@(_ :: _) => rest.reverse
  | _ => name

/-- The loop of `checkDnf`. -/
def dnfUpdates : List String → List PackageUpdate
  | [] => []
  | text :: lines =>
    let line := GoText.trimSpace text
    if line = "" then dnfUpdates lines
    else if GoText.hasStart (GoText.toLower line) "obsoleting" then []
    else
      match GoText.fields line with
      | [name, available, _] =>
        ⟨⟨String.ofList (dnfName name.toList), false, false⟩, "", available⟩ :: dnfUpdates lines
      | _ => dnfUpdates lines

/-- `checkDnf`: the exit code 100 says that there are updates. -/
def checkDnf (r : CommandResult) : Except CommandError (List PackageUpdate) :=
  match r.err with
  | none | some (.exit 100) => .ok (dnfUpdates r.out)
  | some err => .error err

/-- The loop body of `parsePacmanUpdates`. -/
def pacmanUpdate (text : String) : Option PackageUpdate :=
  match GoText.fields (GoText.trimSpace text) with
  | name :: current :: arrow :: available :: _ =>
    if arrow ≠ "->" then none else some ⟨⟨name, false, false⟩, current, available⟩
  | _ => none

/-- `parsePacmanUpdates`. -/
def parsePacmanUpdates (out : List String) : List PackageUpdate := out.filterMap pacmanUpdate

/-- `checkPacman`: what `checkupdates` gave, if it is installed, and what `pacman -Qu` gives.  Each
has an exit code of its own for no updates. -/
def checkPacman (checkupdates : Option CommandResult) (pacman : CommandResult) :
    Except CommandError (List PackageUpdate) :=
  match checkupdates with
  | some r =>
    match r.err with
    | none => .ok (parsePacmanUpdates r.out)
    | some (.exit 2) => .ok []
    | some err => .error err
  | none =>
    match pacman.err with
    | none => .ok (parsePacmanUpdates pacman.out)
    | some err => if err = .exit 1 ∧ pacman.out = [] then .ok [] else .error err

/-- `getUpdateCount`. -/
def getUpdateCount (updates : List PackageUpdate) : UInt16 :=
  UInt16.ofNat (if updates.length > 65535 then 65535 else updates.length)

/-- The loop of `getSecurityUpdateCount`. -/
def getSecurityUpdateCount (updates : List PackageUpdate) : UInt16 :=
  updates.foldl (fun count u => if u.security ∧ count < 65535 then count + 1 else count) 0

/-! ## Words of a line -/

/-- A line that is written with words has them as its fields. -/
theorem fields_of_spaced {words : List (List Char)} {line : List Char}
    (h : Spaced GoText.isSpace words line) :
    GoText.fields (String.ofList line) = words.map String.ofList := by
  rw [GoText.fields, String.toList_ofList, h.fields_eq]

/-- **A trimmed line starts with its first word.** -/
theorem trimSpace_start {word line : List Char} {words : List (List Char)}
    (h : Spaced GoText.isSpace (word :: words) line) :
    ∃ rest, (GoText.trimSpace (String.ofList line)).toList = word ++ rest := by
  obtain ⟨before, inner, after, hline, hbefore, hinner, hafter⟩ := GoText.exists_pad line
  have htrim := GoText.trimSpace_pad hbefore hinner hafter
  have hwords : Spaced GoText.isSpace (word :: words) inner := by
    rw [← fields_eq_iff, ← h.fields_eq, hline, List.append_assoc, fields_append_left hbefore,
      fields_append_right hafter]
  rw [← hline] at htrim
  rw [htrim, String.toList_ofList]
  cases hwords with
  | @word gap _ rest _ hgap hword hrest _ =>
    cases gap with
    | nil => exact ⟨rest, rfl⟩
    | cons c gap =>
      have hspace := hgap c List.mem_cons_self
      rw [hinner.head c rfl] at hspace
      cases hspace

/-- A line with a word in it is not blank. -/
theorem trimSpace_ne_empty {word line : List Char} {words : List (List Char)}
    (h : Spaced GoText.isSpace (word :: words) line) :
    GoText.trimSpace (String.ofList line) ≠ "" := by
  obtain ⟨rest, hrest⟩ := trimSpace_start h
  intro hempty
  rw [hempty] at hrest
  exact (h.isWord word List.mem_cons_self).ne_nil (List.append_eq_nil_iff.mp hrest.symm).1

/-- A text is cut where the separator is first. -/
theorem splitTwo_of_notMem {sep : Char} {before after : List Char} (h : sep ∉ before) :
    GoText.splitTwo (String.ofList (before ++ sep :: after)) (String.singleton sep) =
      some (String.ofList before, String.ofList after) := by
  have hcut : GoText.cutAt [sep] (before ++ sep :: after) = some (before, after) := by
    induction before with
    | nil => simp [GoText.cutAt]
    | cons c before ih =>
      obtain ⟨hc, hbefore⟩ : sep ≠ c ∧ sep ∉ before := by simpa using h
      rw [List.cons_append, GoText.cutAt, if_neg (by simpa using hc), ih hbefore]
      rfl
  rw [GoText.splitTwo, String.toList_ofList, String.toList_singleton, hcut]
  rfl

/-- A text without the separator is not cut. -/
theorem splitTwo_eq_none {sep : Char} {s : String} (h : sep ∉ s.toList) :
    GoText.splitTwo s (String.singleton sep) = none := by
  have hcut : GoText.cutAt [sep] s.toList = none := by
    generalize s.toList = cs at h ⊢
    induction cs with
    | nil => rfl
    | cons c cs ih =>
      obtain ⟨hc, hcs⟩ : sep ≠ c ∧ sep ∉ cs := by simpa using h
      rw [GoText.cutAt, if_neg (by simpa using hc), ih hcs]
      rfl
  rw [GoText.splitTwo, String.toList_singleton, hcut]
  rfl

theorem hasEnd_append (l : List Char) (ending : String) :
    GoText.hasEnd (String.ofList (l ++ ending.toList)) ending = true := by
  rw [GoText.hasEnd, String.toList_ofList, List.isSuffixOf_iff_suffix]
  exact List.suffix_append _ _

theorem trimEnd_append (l : List Char) (ending : String) :
    GoText.trimEnd (String.ofList (l ++ ending.toList)) ending = String.ofList l := by
  have hend := hasEnd_append l ending
  rw [GoText.hasEnd] at hend
  rw [GoText.trimEnd, if_pos hend, String.toList_ofList, String.length_ofList, List.length_append,
    String.length_toList, Nat.add_sub_cancel, List.take_left']
  rfl

theorem contains_iff (s sub : String) :
    GoText.contains s sub = true ↔ sub.toList <:+: s.toList := by
  rw [GoText.contains, List.any_eq_true]
  constructor
  · rintro ⟨tail, htail, hstart⟩
    have hinfix := ((List.mem_tails _ _).mp htail).isInfix
    exact (List.isPrefixOf_iff_prefix.mp hstart).isInfix.trans hinfix
  · intro h
    obtain ⟨tail, hstart, htail⟩ := List.infix_iff_prefix_suffix.mp h
    exact ⟨tail, (List.mem_tails _ _).mpr htail, List.isPrefixOf_iff_prefix.mpr hstart⟩

/-! ## The listing of `apt` -/

/-- A lower case letter, a digit, `+`, `-` or `.`. -/
def isDebianChar (c : Char) : Bool := c.isLower || c.isDigit || c ∈ ['+', '-', '.']

/-- **A row of `apt list --upgradable`**, with any spaces around its six words. -/
structure AptRow where
  name : List Char
  suites : List Char
  available : List Char
  arch : List Char
  current : List Char
  line : List Char
  name_ne_nil : name ≠ []
  name_valid : ∀ c ∈ name, isDebianChar c
  written : Spaced GoText.isSpace
    [name ++ '/' :: suites, available, arch, "[upgradable".toList, "from:".toList,
      current ++ "]".toList] line

/-- **A line of the listing**: a row, or a line that is blank or the heading, has not two words, or
has no suites. -/
inductive AptLine
  | row (r : AptRow)
  | other (text : String) (h : GoText.trimSpace text = "" ∨
      GoText.hasStart (GoText.trimSpace text) "Listing" ∨ (GoText.fields text).length < 2 ∨
      ∀ first ∈ (GoText.fields text).head?, '/' ∉ first.toList)

/-- The line as it is printed. -/
def AptLine.text : AptLine → String
  | .row r => String.ofList r.line
  | .other text _ => text

/-- The row, if it is one. -/
def AptLine.row? : AptLine → Option AptRow
  | .row r => some r
  | .other _ _ => none

/-- **The update that a row is about**: it is held if its package is, and a security update if one
of its suites says so. -/
def AptRow.update (held : List (List Char)) (r : AptRow) : PackageUpdate where
  name := String.ofList r.name
  security := decide ("security".toList <:+: r.suites)
  held := held.contains r.name
  currentVersion := String.ofList r.current
  availableVersion := String.ofList r.available

theorem AptRow.slash_notMem (r : AptRow) : '/' ∉ r.name :=
  fun h => absurd (r.name_valid '/' h) (by decide)

/-- A row is not taken for the heading. -/
theorem AptRow.not_heading (r : AptRow) :
    GoText.hasStart (GoText.trimSpace (String.ofList r.line)) "Listing" = false := by
  obtain ⟨rest, hrest⟩ := trimSpace_start r.written
  rw [GoText.hasStart, hrest, ← Bool.not_eq_true, List.isPrefixOf_iff_prefix]
  intro hprefix
  obtain ⟨c, name, hname⟩ := List.exists_cons_of_ne_nil r.name_ne_nil
  have hvalid := r.name_valid c (by rw [hname]; exact List.mem_cons_self)
  rw [hname] at hprefix
  obtain rfl : 'L' = c := (List.cons_prefix_cons.mp hprefix).1
  exact absurd hvalid (by decide)

/-- **A row is read as its update.** -/
theorem AptRow.aptUpdate_line (r : AptRow) (held : List (List Char)) :
    aptUpdate (held.map String.ofList) (String.ofList r.line) = some (r.update held) := by
  have hfields := fields_of_spaced r.written
  have hheld : (String.ofList r.name ∈ held.map String.ofList) ↔ r.name ∈ held :=
    List.mem_map_of_injective fun _ _ h => String.ofList_injective h
  have hsecurity : GoText.contains (String.ofList r.suites) "security" =
      decide ("security".toList <:+: r.suites) := by
    rw [Bool.eq_iff_iff, contains_iff, decide_eq_true_iff]
    exact iff_of_eq (congrArg ("security".toList <:+: ·) String.toList_ofList)
  have hend : GoText.hasEnd (String.ofList (r.current ++ "]".toList)) "]" = true :=
    hasEnd_append r.current "]"
  have htrim : GoText.trimEnd (String.ofList (r.current ++ "]".toList)) "]" =
      String.ofList r.current := trimEnd_append r.current "]"
  have hsplit : GoText.splitTwo (String.ofList (r.name ++ '/' :: r.suites)) "/" =
      some (String.ofList r.name, String.ofList r.suites) := splitTwo_of_notMem r.slash_notMem
  have hkept : ¬ (GoText.trimSpace (String.ofList r.line) = "" ∨
      GoText.hasStart (GoText.trimSpace (String.ofList r.line)) "Listing" = true) := by
    rw [r.not_heading]
    exact not_or.mpr ⟨trimSpace_ne_empty r.written, Bool.false_ne_true⟩
  rw [aptUpdate, if_neg hkept, GoText.fields_trimSpace, hfields]
  simp only [List.map_cons, List.map_nil, hsplit, Option.map_some]
  have hlast : [String.ofList r.arch, String.ofList "[upgradable".toList,
      String.ofList "from:".toList, String.ofList (r.current ++ "]".toList)].getLast?.getD
        (String.ofList r.available) = String.ofList (r.current ++ "]".toList) := rfl
  rw [hlast, if_pos ⟨Nat.le_refl 6, hend⟩, htrim]
  simp only [hsecurity, hheld, ← List.contains_iff_mem, Bool.decide_eq_true]
  rfl

/-- Other lines are none. -/
theorem aptUpdate_text (held : List (List Char)) (line : AptLine) :
    aptUpdate (held.map String.ofList) line.text = line.row?.map (·.update held) := by
  cases line with
  | row r => exact r.aptUpdate_line held
  | other text h =>
    rw [AptLine.text, aptUpdate]
    split_ifs with hskip
    · rfl
    · obtain ⟨hblank, hheading⟩ := not_or.mp hskip
      have hother := (h.resolve_left hblank).resolve_left hheading
      rw [GoText.fields_trimSpace]
      rcases hfields : GoText.fields text with _ | ⟨first, _ | ⟨available, rest⟩⟩
      · rfl
      · rfl
      · rw [hfields] at hother
        have hshort : ¬ (first :: available :: rest).length < 2 := by simp
        have hnone : GoText.splitTwo first "/" = none :=
          splitTwo_eq_none (hother.resolve_left hshort first rfl)
        dsimp only
        rw [hnone]
        rfl

/-! ### The counts -/

/-- The count does not pass its greatest value. -/
theorem getSecurityUpdateCount_toNat (updates : List PackageUpdate) :
    (getSecurityUpdateCount updates).toNat = min 65535 (updates.countP (·.security)) := by
  have hloop : ∀ (updates : List PackageUpdate) (count : UInt16),
      (updates.foldl (fun count u => if u.security ∧ count < 65535 then count + 1 else count)
        count).toNat = min 65535 (count.toNat + updates.countP (·.security)) := by
    intro updates
    induction updates with
    | nil =>
      intro count
      have hlt := count.toNat_lt
      rw [List.foldl_nil, List.countP_nil]
      omega
    | cons u updates ih =>
      intro count
      have hlt := count.toNat_lt
      rw [List.foldl_cons, ih, List.countP_cons]
      cases hu : u.security with
      | false => simp
      | true =>
        by_cases hcount : count < 65535
        · have hnat : count.toNat < 65535 := UInt16.lt_iff_toNat_lt.mp hcount
          have hadd : (count + 1).toNat = count.toNat + 1 := by
            rw [UInt16.toNat_add, UInt16.toNat_one]
            exact Nat.mod_eq_of_lt (by omega)
          rw [if_pos ⟨rfl, hcount⟩, hadd]
          simp only [if_true]
          omega
        · have hnat : ¬ count.toNat < 65535 := fun h => hcount (UInt16.lt_iff_toNat_lt.mpr h)
          rw [if_neg fun h => hcount h.2]
          simp only [if_true]
          omega
  rw [getSecurityUpdateCount, hloop]
  exact congrArg (min 65535) (Nat.zero_add _)

theorem getUpdateCount_toNat (updates : List PackageUpdate) :
    (getUpdateCount updates).toNat = min 65535 updates.length := by
  unfold getUpdateCount
  split_ifs with h
  · exact (Nat.min_eq_left (Nat.le_of_lt h)).symm
  · refine (Nat.mod_eq_of_lt ?_).trans (Nat.min_eq_right (by omega)).symm
    exact Nat.lt_of_le_of_lt (not_lt.mp h) (by decide)

/-- A security update of `nginx`. -/
def nginxRow : AptRow where
  name := "nginx".toList
  suites := "stable,stable-security".toList
  available := "1.22-2".toList
  arch := "amd64".toList
  current := "1.22-1".toList
  line := "nginx/stable,stable-security 1.22-2 amd64 [upgradable from: 1.22-1]".toList
  name_ne_nil := by decide
  name_valid := List.all_eq_true.mp (by decide)
  written := fields_eq_iff.mp (by decide +kernel)

/-- **A row of `dnf check-update`**, with any spaces around its three words. -/
structure DnfRow where
  name : List Char
  arch : List Char
  available : List Char
  repository : List Char
  line : List Char
  name_ne_nil : name ≠ []
  dot_notMem : '.' ∉ arch
  written : Spaced GoText.isSpace [name ++ '.' :: arch, available, repository] line

/-- **A line of the listing**: a row, or a line that has not three words. -/
inductive DnfLine
  | row (r : DnfRow)
  | other (text : String) (h : (GoText.fields text).length ≠ 3)

/-- The line as it is printed. -/
def DnfLine.text : DnfLine → String
  | .row r => String.ofList r.line
  | .other text _ => text

/-- The row, if it is one. -/
def DnfLine.row? : DnfLine → Option DnfRow
  | .row r => some r
  | .other _ _ => none

/-- The update that a row is about. -/
def DnfRow.update (r : DnfRow) : PackageUpdate :=
  ⟨⟨String.ofList r.name, false, false⟩, "", String.ofList r.available⟩

/-- The line starts the packages that are made obsolete. -/
def startsObsoleting (text : String) : Bool :=
  GoText.trimSpace text ≠ "" ∧
    GoText.hasStart (GoText.toLower (GoText.trimSpace text)) "obsoleting"

/-- **The name ends at the last dot.** -/
theorem dnfName_append {name arch : List Char} (hname : name ≠ []) (harch : '.' ∉ arch) :
    dnfName (name ++ '.' :: arch) = name := by
  have hreverse : (name ++ '.' :: arch).reverse = arch.reverse ++ '.' :: name.reverse := by simp
  have hskip : (arch.reverse ++ '.' :: name.reverse).dropWhile (· ≠ '.') = '.' :: name.reverse := by
    rw [List.dropWhile_append_of_pos fun c hc => ?_, List.dropWhile_cons_of_neg (by simp)]
    exact decide_eq_true fun h => harch (h ▸ List.mem_reverse.mp hc)
  obtain ⟨c, rest, hrest⟩ := List.exists_cons_of_ne_nil (List.reverse_ne_nil_iff.mpr hname)
  rw [dnfName, hreverse, hskip, hrest]
  dsimp only
  rw [← hrest, List.reverse_reverse]

/-- **One line of the listing.** -/
theorem dnfUpdates_cons (line : DnfLine) (lines : List String)
    (h : startsObsoleting line.text = false) :
    dnfUpdates (line.text :: lines) =
      (line.row?.map DnfRow.update).toList ++ dnfUpdates lines := by
  have hstart : GoText.trimSpace line.text ≠ "" →
      ¬ GoText.hasStart (GoText.toLower (GoText.trimSpace line.text)) "obsoleting" = true :=
    fun hne hobsoleting => of_decide_eq_false h ⟨hne, hobsoleting⟩
  cases line with
  | row r =>
    have hne := trimSpace_ne_empty r.written
    have hfields := fields_of_spaced r.written
    rw [DnfLine.text, dnfUpdates]
    have hkept : ¬ GoText.hasStart (GoText.toLower (GoText.trimSpace (String.ofList r.line)))
        "obsoleting" = true := hstart hne
    rw [if_neg hne, if_neg hkept, GoText.fields_trimSpace, hfields]
    simp only [List.map_cons, List.map_nil]
    rw [String.toList_ofList, dnfName_append r.name_ne_nil r.dot_notMem]
    rfl
  | other text hcount =>
    rw [DnfLine.text, dnfUpdates]
    split_ifs with hblank hobsoleting
    · rfl
    · exact absurd hobsoleting (hstart hblank)
    · rw [GoText.fields_trimSpace]
      rcases hfields : GoText.fields text with _ | ⟨a, _ | ⟨b, _ | ⟨c, _ | ⟨d, rest⟩⟩⟩⟩
      · rfl
      · rfl
      · rfl
      · exact absurd (by rw [hfields]; rfl) hcount
      · rfl

/-- **What `dnf` lists is read**: the updates are those of the rows, in their order, up to the first
line that says that packages are made obsolete. -/
theorem dnfUpdates_listing (out : List DnfLine) :
    dnfUpdates (out.map DnfLine.text) =
      ((out.takeWhile (!startsObsoleting ·.text)).filterMap DnfLine.row?).map DnfRow.update := by
  induction out with
  | nil => rfl
  | cons line out ih =>
    rw [List.map_cons]
    cases h : startsObsoleting line.text with
    | true =>
      obtain ⟨hne, hstart⟩ := of_decide_eq_true h
      rw [List.takeWhile_cons_of_neg (by simp [h]), dnfUpdates]
      rw [if_neg hne, if_pos hstart]
      rfl
    | false =>
      rw [List.takeWhile_cons_of_pos (by simp [h]), dnfUpdates_cons line _ h, ih]
      cases line with
      | row r => rfl
      | other text hcount => rfl

/-- An update of the kernel. -/
def kernelRow : DnfRow where
  name := "kernel".toList
  arch := "x86_64".toList
  available := "5.14.0-503.el9".toList
  repository := "baseos".toList
  line := "kernel.x86_64    5.14.0-503.el9    baseos".toList
  name_ne_nil := by decide
  dot_notMem := by decide
  written := fields_eq_iff.mp (by decide +kernel)

/-- **A row of `checkupdates` or `pacman -Qu`**, with any spaces around its words; the latter adds a
word to a package that is ignored. -/
structure PacmanRow where
  name : List Char
  current : List Char
  available : List Char
  rest : List (List Char)
  line : List Char
  written : Spaced GoText.isSpace (name :: current :: "->".toList :: available :: rest) line

/-- **A line of the listing**: a row, or a line that has not four words or has no arrow. -/
inductive PacmanLine
  | row (r : PacmanRow)
  | other (text : String)
      (h : (GoText.fields text).length < 4 ∨ (GoText.fields text)[2]? ≠ some "->")

/-- The line as it is printed. -/
def PacmanLine.text : PacmanLine → String
  | .row r => String.ofList r.line
  | .other text _ => text

/-- The row, if it is one. -/
def PacmanLine.row? : PacmanLine → Option PacmanRow
  | .row r => some r
  | .other _ _ => none

/-- The update that a row is about. -/
def PacmanRow.update (r : PacmanRow) : PackageUpdate :=
  ⟨⟨String.ofList r.name, false, false⟩, String.ofList r.current, String.ofList r.available⟩

theorem pacmanUpdate_text (line : PacmanLine) :
    pacmanUpdate line.text = line.row?.map PacmanRow.update := by
  cases line with
  | row r =>
    rw [PacmanLine.text, pacmanUpdate, GoText.fields_trimSpace, fields_of_spaced r.written]
    simp only [List.map_cons, String.ofList_toList]
    exact if_neg (not_not_intro rfl)
  | other text h =>
    rw [PacmanLine.text, pacmanUpdate, GoText.fields_trimSpace]
    rcases hfields : GoText.fields text with _ | ⟨a, _ | ⟨b, _ | ⟨c, _ | ⟨d, rest⟩⟩⟩⟩
    · rfl
    · rfl
    · rfl
    · rfl
    · rw [hfields] at h
      refine if_pos fun harrow => ?_
      rcases h with hshort | harrow'
      · exact absurd hshort (by simp)
      · exact harrow' (congrArg some harrow)

theorem parsePacmanUpdates_listing (out : List PacmanLine) :
    parsePacmanUpdates (out.map PacmanLine.text) =
      (out.filterMap PacmanLine.row?).map PacmanRow.update := by
  rw [parsePacmanUpdates, List.filterMap_map, List.map_filterMap]
  refine List.filterMap_congr fun line _ => ?_
  rw [Function.comp_apply, pacmanUpdate_text]

/-- An update of an ignored package. -/
def linuxRow : PacmanRow where
  name := "linux".toList
  current := "6.9.1-1".toList
  available := "6.9.2-1".toList
  rest := ["[ignored]".toList]
  line := "linux 6.9.1-1 -> 6.9.2-1 [ignored]".toList
  written := fields_eq_iff.mp (by decide +kernel)

end PkgListings

end Beszel
