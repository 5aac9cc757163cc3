import Beszel.Agent.PkgRefresh
import Beszel.Common.Text

/-!
# Agent/PkgApk — the updates that `apk` lists

    "musl-1.2.4-r0 < 1.2.4-r1" ──fields──▸ "musl-1.2.4-r0" ──▸ musl | 1.2.4-r0

`checkApk` and `splitApkNameVersion` of `agent/pkgupdate.go`.  A name and a version are joined with
a dash, and the split is made at the first dash before a digit: `versionAt_fullName` says that this
is the right one unless the name has such a dash itself.
-/

namespace Beszel

open Machinery

namespace PkgApk

open PkgRefresh (PackageUpdate)

/-! ## The parser -/

/-- The loop of `splitApkNameVersion`. -/
def versionAt : List Char → Option (List Char × List Char)
  | [] => none
  | c :: rest =>
    if c = '-' ∧ rest.head?.any Char.isDigit then some ([], rest)
    else (versionAt rest).map fun (name, version) => (c :: name, version)

/-- `splitApkNameVersion`. -/
def splitApkNameVersion (s : String) : String × String :=
  match versionAt s.toList with
  | some (name, version) => (String.ofList name, String.ofList version)
  | none => (s, "")

/-- The loop body of `checkApk`. -/
def apkUpdate (text : String) : Option PackageUpdate :=
  match GoText.fields (GoText.trimSpace text) with
  | installed :: sign :: available :: _ =>
    if sign ≠ "<" then none
    else
      let (name, currentVersion) := splitApkNameVersion installed
      some ⟨⟨name, false, false⟩, currentVersion, available⟩
  | _ => none

/-- `checkApk`, from the lines that `apk version -l '<'` prints, or its error. -/
def checkApk (out : Except String (List String)) : Except String (List PackageUpdate) :=
  out.map (·.filterMap apkUpdate)

/-! ## Names and versions -/

/-- A letter, a digit, `+`, `-`, `_` or `.`. -/
def isNameChar (c : Char) : Bool := c.isAlphanum || c ∈ ['+', '-', '_', '.']

/-- **The name of a package.** -/
structure ApkName where
  chars : List Char
  ne_nil : chars ≠ []
  valid : ∀ c ∈ chars, isNameChar c

/-- **A version**: it starts with a digit, and its only dash is that of a final `-r<number>`. -/
structure ApkVersion where
  digit : Char
  body : List Char
  revision : Option (List Char)
  isDigit_digit : digit.isDigit
  dash_notMem : '-' ∉ body
  isNumber : ∀ number ∈ revision, number ≠ [] ∧ ∀ c ∈ number, c.isDigit

/-- `-r<number>`, if there is one. -/
def ApkVersion.ending (v : ApkVersion) : List Char :=
  match v.revision with
  | none => []
  | some number => '-' :: 'r' :: number

/-- The version as it is written. -/
def ApkVersion.chars (v : ApkVersion) : List Char := v.digit :: v.body ++ v.ending

/-- The package as `apk` prints it. -/
def fullName (n : ApkName) (v : ApkVersion) : List Char := n.chars ++ '-' :: v.chars

theorem ApkVersion.head_chars (v : ApkVersion) : v.chars.head?.any Char.isDigit = true :=
  v.isDigit_digit

/-- There is a dash before a digit. -/
def DashDigit (name : List Char) : Prop := ∃ d : Char, d.isDigit = true ∧ ['-', d] <:+: name

/-- Without such a dash in the name, the version starts where it should. -/
theorem versionAt_of_not_dashDigit {name version : List Char} (hname : ¬ DashDigit name)
    (hversion : version.head?.any Char.isDigit = true) :
    versionAt (name ++ '-' :: version) = some (name, version) := by
  induction name with
  | nil => exact if_pos ⟨rfl, hversion⟩
  | cons c name ih =>
    have hrest : ¬ DashDigit name := fun ⟨d, hd, hinfix⟩ =>
      hname ⟨d, hd, hinfix.trans (List.suffix_cons c name).isInfix⟩
    have hstep : ¬ (c = '-' ∧ (name ++ '-' :: version).head?.any Char.isDigit = true) := by
      rintro ⟨rfl, hdigit⟩
      cases name with
      | nil => exact absurd (show '-'.isDigit = true from hdigit) (by decide)
      | cons d name => exact hname ⟨d, hdigit, [], name, rfl⟩
    rw [List.cons_append, versionAt, if_neg hstep, ih hrest]
    rfl

/-- A dash before a digit ends the name. -/
theorem versionAt_dashDigit {d : Char} (hd : d.isDigit = true) (start rest : List Char) :
    ∃ name version, versionAt (start ++ '-' :: d :: rest) = some (name, version) ∧
      name.length ≤ start.length := by
  induction start with
  | nil => exact ⟨[], d :: rest, if_pos ⟨rfl, hd⟩, le_rfl⟩
  | cons c start ih =>
    obtain ⟨name, version, hversion, hlen⟩ := ih
    rw [List.cons_append, versionAt, hversion]
    split_ifs
    · exact ⟨[], _, rfl, Nat.zero_le _⟩
    · exact ⟨c :: name, version, rfl, Nat.succ_le_succ hlen⟩

/-- **Where a package is split**: at the dash between its name and its version, or within the
name. -/
theorem versionAt_fullName (n : ApkName) (v : ApkVersion) :
    (¬ DashDigit n.chars ∧ versionAt (fullName n v) = some (n.chars, v.chars)) ∨
      DashDigit n.chars ∧ ∃ name version,
        versionAt (fullName n v) = some (name, version) ∧ name.length < n.chars.length := by
  by_cases h : DashDigit n.chars
  · refine .inr ⟨h, ?_⟩
    obtain ⟨d, hd, start, rest, hchars⟩ := h
    have hfull : fullName n v = start ++ '-' :: d :: (rest ++ '-' :: v.chars) := by
      rw [fullName, ← hchars]
      simp
    obtain ⟨name, version, hversion, hlen⟩ := versionAt_dashDigit hd start (rest ++ '-' :: v.chars)
    refine ⟨name, version, by rw [hfull, hversion], hlen.trans_lt ?_⟩
    rw [← hchars]
    simp
  · exact .inl ⟨h, versionAt_of_not_dashDigit h v.head_chars⟩

/-- The name is right exactly where it has no dash before a digit. -/
theorem splitApkNameVersion_fst_iff (n : ApkName) (v : ApkVersion) :
    (splitApkNameVersion (String.ofList (fullName n v))).1 = String.ofList n.chars ↔
      ¬ DashDigit n.chars := by
  unfold splitApkNameVersion
  rw [String.toList_ofList]
  rcases versionAt_fullName n v with ⟨h, hsplit⟩ | ⟨h, name, version, hsplit, hlen⟩
  · rw [hsplit]
    exact iff_of_true rfl h
  · rw [hsplit]
    refine iff_of_false (fun heq => ?_) (not_not_intro h)
    rw [String.ofList_injective heq] at hlen
    exact lt_irrefl _ hlen

/-- And then so is the version. -/
theorem splitApkNameVersion_iff (n : ApkName) (v : ApkVersion) :
    splitApkNameVersion (String.ofList (fullName n v)) =
      (String.ofList n.chars, String.ofList v.chars) ↔ ¬ DashDigit n.chars := by
  constructor
  · intro h
    exact (splitApkNameVersion_fst_iff n v).mp (congrArg Prod.fst h)
  · intro h
    unfold splitApkNameVersion
    rw [String.toList_ofList, fullName, versionAt_of_not_dashDigit h v.head_chars]

/-! ## The listing -/

/-- **A row of the listing**, with any spaces around its three words. -/
structure ApkRow where
  package : ApkName
  version : ApkVersion
  available : List Char
  before : List Char
  left : List Char
  right : List Char
  after : List Char
  version_word : ∀ c ∈ version.chars, GoText.isSpace c = false
  available_word : available ≠ [] ∧ ∀ c ∈ available, GoText.isSpace c = false
  outer_spaces : ∀ c ∈ before ++ after, GoText.isSpace c
  left_spaces : left ≠ [] ∧ ∀ c ∈ left, GoText.isSpace c
  right_spaces : right ≠ [] ∧ ∀ c ∈ right, GoText.isSpace c

/-- The row as it is printed. -/
def ApkRow.chars (r : ApkRow) : List Char :=
  r.before ++ (fullName r.package r.version ++ r.left ++ ['<'] ++ r.right ++ r.available) ++ r.after

/-- **A line of the listing**: a row, or a line without three fields, as the header is. -/
inductive OutputLine
  | row (r : ApkRow)
  | other (text : String) (short : (GoText.fields text).length < 3)

/-- The line as it is printed. -/
def OutputLine.text : OutputLine → String
  | .row r => String.ofList r.chars
  | .other text _ => text

/-- The row, if it is one. -/
def OutputLine.row? : OutputLine → Option ApkRow
  | .row r => some r
  | .other _ _ => none

/-- Letters and digits lie between `0` and `z`. -/
theorem toNat_of_isAlphanum {c : Char} (h : c.isAlphanum = true) :
    0x30 ≤ c.val.toNat ∧ c.val.toNat ≤ 0x7a := by
  have hrange : '0'.val ≤ c.val ∧ c.val ≤ 'z'.val := by
    rcases (Bool.or_eq_true _ _).mp h with hletter | hdigit
    · rcases (Bool.or_eq_true _ _).mp hletter with hupper | hlower
      · obtain ⟨hge, hle⟩ := of_decide_eq_true hupper
        exact ⟨UInt32.le_trans (by decide) hge, UInt32.le_trans hle (by decide)⟩
      · obtain ⟨hge, hle⟩ := (Bool.and_eq_true _ _).mp hlower
        exact ⟨UInt32.le_trans (by decide) (of_decide_eq_true hge), of_decide_eq_true hle⟩
    · obtain ⟨hge, hle⟩ := (Bool.and_eq_true _ _).mp hdigit
      exact ⟨of_decide_eq_true hge, UInt32.le_trans (of_decide_eq_true hle) (by decide)⟩
  exact ⟨UInt32.le_iff_toNat_le.mp hrange.1, UInt32.le_iff_toNat_le.mp hrange.2⟩

theorem isSpace_of_isNameChar {c : Char} (h : isNameChar c = true) : GoText.isSpace c = false := by
  rw [isNameChar, Bool.or_eq_true, decide_eq_true_eq] at h
  rcases h with h | h
  · obtain ⟨hge, hle⟩ := toNat_of_isAlphanum h
    exact GoText.isSpace_of_printable (by omega) (by omega)
  · rcases (by simpa using h : c = '+' ∨ c = '-' ∨ c = '_' ∨ c = '.') with rfl | rfl | rfl | rfl
      <;> rfl

theorem ApkRow.fields_chars (r : ApkRow) : Machinery.fields GoText.isSpace r.chars =
    [fullName r.package r.version, ['<'], r.available] := by
  have hbefore : ∀ c ∈ r.before, GoText.isSpace c := fun c hc =>
    r.outer_spaces c (List.mem_append_left _ hc)
  have hafter : ∀ c ∈ r.after, GoText.isSpace c := fun c hc =>
    r.outer_spaces c (List.mem_append_right _ hc)
  have hname : ∀ c ∈ fullName r.package r.version, GoText.isSpace c = false := by
    intro c hc
    rcases List.mem_append.mp hc with hc | hc
    · exact isSpace_of_isNameChar (r.package.valid c hc)
    · rcases List.mem_cons.mp hc with rfl | hc
      · rfl
      · exact r.version_word c hc
  have hlt : ∀ c ∈ ['<'], GoText.isSpace c = false := List.forall_mem_singleton.mpr rfl
  have hne : fullName r.package r.version ≠ [] := by simp [fullName]
  rw [ApkRow.chars, fields_append_right hafter, fields_append_left hbefore,
    fields_append_gap r.right_spaces.2 r.right_spaces.1,
    fields_append_gap r.left_spaces.2 r.left_spaces.1, fields_word hname hne,
    fields_word r.available_word.2 r.available_word.1, fields_word hlt (by decide)]
  rfl

/-- A row is an update of what its first word is split into. -/
theorem ApkRow.apkUpdate_chars (r : ApkRow) : apkUpdate (String.ofList r.chars) =
    let split := splitApkNameVersion (String.ofList (fullName r.package r.version))
    some ⟨⟨split.1, false, false⟩, split.2, String.ofList r.available⟩ := by
  have hfields : GoText.fields (GoText.trimSpace (String.ofList r.chars)) =
      [String.ofList (fullName r.package r.version), "<", String.ofList r.available] := by
    rw [GoText.fields_trimSpace, GoText.fields, String.toList_ofList, r.fields_chars]
    rfl
  rw [apkUpdate, hfields]
  rfl

theorem apkUpdate_short {text : String} (h : (GoText.fields text).length < 3) :
    apkUpdate text = none := by
  rw [apkUpdate, GoText.fields_trimSpace]
  rcases hfields : GoText.fields text with _ | ⟨installed, _ | ⟨sign, _ | ⟨available, rest⟩⟩⟩
  · rfl
  · rfl
  · rfl
  · rw [hfields] at h
    exact absurd h (by simp)

theorem filterMap_apkUpdate (out : List OutputLine) :
    (out.map OutputLine.text).filterMap apkUpdate =
      (out.filterMap OutputLine.row?).map fun r =>
        let split := splitApkNameVersion (String.ofList (fullName r.package r.version))
        ⟨⟨split.1, false, false⟩, split.2, String.ofList r.available⟩ := by
  induction out with
  | nil => rfl
  | cons line out ih =>
    cases line with
    | row r =>
      rw [List.map_cons, OutputLine.text, List.filterMap_cons_some r.apkUpdate_chars, ih]
      rfl
    | other text short =>
      rw [List.map_cons, OutputLine.text, List.filterMap_cons_none (apkUpdate_short short), ih]
      rfl

/-- **When the updates of `apk` are named right**: a package is split where its name ends exactly if
the name has no dash before a digit, and the update list names the packages of the listing exactly
if that holds of each of them. -/
theorem splitApkNameVersion_inverts_iff (n : ApkName) (v : ApkVersion) (out : List OutputLine) :
    (splitApkNameVersion (String.ofList (fullName n v)) =
      (String.ofList n.chars, String.ofList v.chars) ↔ ¬ DashDigit n.chars) ∧
    ((checkApk (.ok (out.map OutputLine.text))).map (·.map (·.name)) =
        .ok ((out.filterMap OutputLine.row?).map fun r => String.ofList r.package.chars) ↔
      ∀ r ∈ out.filterMap OutputLine.row?, ¬ DashDigit r.package.chars) := by
  refine ⟨splitApkNameVersion_iff n v, ?_⟩
  have hcheck : checkApk (.ok (out.map OutputLine.text)) =
      .ok ((out.map OutputLine.text).filterMap apkUpdate) := rfl
  rw [hcheck, filterMap_apkUpdate, Except.map, List.map_map, Except.ok.injEq, List.map_inj_left]
  exact forall₂_congr fun r _ => splitApkNameVersion_fst_iff r.package r.version

/-- A font for 100 dots per inch. -/
def fontName : ApkName where
  chars := "font-adobe-100dpi".toList
  ne_nil := by decide
  valid := List.all_eq_true.mp (by decide)

/-- Its version. -/
def fontVersion : ApkVersion where
  digit := '1'
  body := ".0.4".toList
  revision := some ['0']
  isDigit_digit := by decide
  dash_notMem := by decide
  isNumber := by simp

/-- **A package that is not named right.** -/
theorem not_splitApkNameVersion_inverts :
    splitApkNameVersion "font-adobe-100dpi-1.0.4-r0" = ("font-adobe", "100dpi-1.0.4-r0") ∧
      ¬ ∀ (n : ApkName) (v : ApkVersion), splitApkNameVersion (String.ofList (fullName n v)) =
        (String.ofList n.chars, String.ofList v.chars) := by
  refine ⟨by decide +kernel, fun h => ?_⟩
  have hfont := h fontName fontVersion
  revert hfont
  decide +kernel

end PkgApk

end Beszel
