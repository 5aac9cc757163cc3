import Beszel.Machinery.Paths

/-!
# Update/Extract — what the archive of a release writes

    .tar.gz ── entry ─────────────────────────────▸ destDir/name
    .zip ───── entry ── begins with destDir/ ? ───▸ destDir/name

`extract` of `internal/ghupdate/extract.go`, where a slash separates the elements of a path.  Names
and paths are bytes, written as characters.  What a run asks the system to make or to write is
recorded call by call; how each step of an entry comes out is given with the entry.
-/

namespace Beszel

open Machinery.Paths

namespace Update

/-! ## Archives -/

/-- What an entry is. -/
inductive Kind
  | directory
  | regular
  | irregular
  deriving DecidableEq, Repr

/-- **An entry of an archive**, and how the steps of extracting it come out. -/
structure Entry where
  name : List Char
  kind : Kind
  mode : ℕ
  opens : Bool
  mkdirs : Bool
  creates : Bool
  copies : Bool
  deriving DecidableEq, Repr

/-- An archive: whether it can be opened, its entries, and whether the reader finds the end of it
after the last one. -/
structure Archive where
  opens : Bool
  entries : List Entry
  ends : Bool
  deriving DecidableEq, Repr

/-- What the system is asked for. -/
inductive Call
  | mkdirAll (path : List Char) (perm : ℕ)
  | create (path : List Char) (perm : ℕ)
  deriving DecidableEq, Repr

/-- What stops an extraction. -/
inductive Failure
  | system
  | invalidFilePath (path : List Char)
  deriving DecidableEq, Repr

/-! ## Extraction -/

/-- The calls of one entry after the other, up to the first that fails. -/
def each (extractEntry : Entry → List Call × Option Failure) :
    List Entry → List Call × Option Failure
  | [] => ([], none)
  | e :: entries =>
    match extractEntry e with
    | (calls, some failure) => (calls, some failure)
    | (calls, none) =>
      (calls ++ (each extractEntry entries).1, (each extractEntry entries).2)

/-- An entry of a tar archive. -/
def tarEntry (destDir : List Char) (header : Entry) : List Call × Option Failure :=
  if header.kind = .directory then
    ([.mkdirAll (join [destDir, header.name]) 0o755], if header.mkdirs then none else some .system)
  else if header.mkdirs = false then
    ([.mkdirAll (dir (join [destDir, header.name])) 0o755], some .system)
  else
    ([.mkdirAll (dir (join [destDir, header.name])) 0o755,
        .create (join [destDir, header.name]) 0o666],
      if header.creates && header.copies then none else some .system)

/-- `extractTarGz`. -/
def extractTarGz (src : Archive) (destDir : List Char) : List Call × Option Failure :=
  if src.opens = false then ([], some .system)
  else
    match each (tarEntry destDir) src.entries with
    | (calls, some failure) => (calls, some failure)
    | (calls, none) => (calls, if src.ends then none else some .system)

/-- `extractFile`. -/
def extractFile (basePath : List Char) (zipFile : Entry) : List Call × Option Failure :=
  let path := join [basePath, zipFile.name]
  -- check for Zip Slip
  if basePath.isPrefixOf path = false then ([], some (.invalidFilePath path))
  else if zipFile.opens = false then ([], some .system)
  else
    match zipFile.kind with
    | .directory => ([.mkdirAll path 0o777], if zipFile.mkdirs then none else some .system)
    | .regular =>
      if zipFile.mkdirs = false then ([.mkdirAll (dir path) 0o777], some .system)
      else
        ([.mkdirAll (dir path) 0o777, .create path zipFile.mode],
          if zipFile.creates && zipFile.copies then none else some .system)
    | .irregular => ([], none)

/-- `extractZip`. -/
def extractZip (src : Archive) (dest : List Char) : List Call × Option Failure :=
  if src.opens = false then ([], some .system)
  else each (extractFile (clean dest ++ ['/'])) src.entries

/-- `extract` — the format is that of the name. -/
def extract (srcPath : List Char) (src : Archive) (destDir : List Char) :
    List Call × Option Failure :=
  if ".tar.gz".toList.isSuffixOf srcPath then extractTarGz src destDir else extractZip src destDir

/-! ## What is made -/

/-- The directories that there are before: with each its parent. -/
structure Tree where
  has : Path → Bool
  has_parent : ∀ p, has p = true → has p.parent = true

/-- `q` is `p` or above it. -/
def Above (q p : Path) : Prop := q.rooted = p.rooted ∧ q.names <:+ p.names

instance (q p : Path) : Decidable (Above q p) := inferInstanceAs (Decidable (_ ∧ _))

/-- A path, and what is above it. -/
def Tree.upTo (p : Path) : Tree where
  has q := decide (Above q p)
  has_parent q h :=
    let ⟨hroot, hsuffix⟩ := of_decide_eq_true h
    decide_eq_true ⟨hroot, (List.tail_suffix q.names).trans hsuffix⟩

/-- What a call is to make or write: `MkdirAll` the directories that there are not yet. -/
def Call.Makes (tree : Tree) (q : Path) : Call → Prop
  | .mkdirAll path _ => Above q (parse path) ∧ tree.has q = false
  | .create path _ => q = parse path

/-- **The directory to extract to**: it has a name, and a parent that there is. -/
structure Dest (tree : Tree) where
  text : List Char
  text_ne_nil : text ≠ []
  named : (parse text).Named
  has_parent : tree.has (parse text).parent = true

/-- Its path. -/
def Dest.path {tree : Tree} (dest : Dest tree) : Path := parse dest.text

/-- Everything that a call is to make or write is within the directory. -/
def Call.Inside {tree : Tree} (dest : Dest tree) (call : Call) : Prop :=
  ∀ q, call.Makes tree q → dest.path.Within q

variable {tree : Tree} {dest : Dest tree} {p q : Path}

theorem Tree.has_of_above (h : tree.has p = true) (habove : Above q p) : tree.has q = true := by
  obtain ⟨hroot, above, hnames⟩ := habove
  induction above generalizing p with
  | nil => rwa [Machinery.Paths.Path.ext hroot hnames]
  | cons n above ih =>
    refine ih (tree.has_parent p h) hroot ?_
    change above ++ q.names = p.names.tail
    rw [← hnames]
    rfl

/-- What is above something within is within, or there already. -/
theorem Dest.within_of_above (h : dest.path.Within p) (habove : Above q p)
    (hnew : tree.has q = false) : dest.path.Within q := by
  obtain ⟨hroot, below, hbelow, hnames⟩ := h
  obtain ⟨hqroot, hsuffix⟩ := habove
  have hdest : dest.path.names <:+ p.names := ⟨below, hnames.symm⟩
  have hcase : dest.path.names <:+ q.names := by
    rcases List.suffix_or_suffix_of_suffix hdest hsuffix with h | ⟨above, hq⟩
    · exact h
    · cases above with
      | nil => exact hq ▸ List.suffix_rfl
      | cons n above =>
        refine absurd (Tree.has_of_above dest.has_parent ⟨hqroot.trans hroot, above, ?_⟩) ?_
        · exact congrArg List.tail hq
        · rw [hnew]
          exact Bool.false_ne_true
  obtain ⟨below', hq⟩ := hcase
  refine ⟨hqroot.trans hroot, below', fun hup => hbelow ?_, hq.symm⟩
  obtain ⟨above, hp⟩ := hsuffix
  have heq : above ++ below' = below := by
    rw [← hq, hnames, ← List.append_assoc] at hp
    exact List.append_cancel_right hp
  exact heq ▸ List.mem_append_right above hup

/-- When making a directory makes nothing elsewhere. -/
theorem inside_mkdirAll {path : List Char} {perm : ℕ} :
    (Call.mkdirAll path perm).Inside dest ↔
      dest.path.Within (parse path) ∨ tree.has (parse path) = true := by
  constructor
  · intro h
    cases hnew : tree.has (parse path) with
    | true => exact .inr rfl
    | false => exact .inl (h (parse path) ⟨⟨rfl, List.suffix_rfl⟩, hnew⟩)
  · rintro (h | h) q ⟨habove, hnew⟩
    · exact dest.within_of_above h habove hnew
    · rw [Tree.has_of_above h habove] at hnew
      exact absurd hnew.symm Bool.false_ne_true

theorem inside_create {path : List Char} {perm : ℕ} :
    (Call.create path perm).Inside dest ↔ dest.path.Within (parse path) :=
  forall_eq

/-- The directory of a path within is within, or there already. -/
theorem Dest.parent_iff :
    dest.path.Within p.parent ∨ tree.has p.parent = true ↔
      dest.path.Within p ∨ tree.has p.parent = true := by
  constructor
  · rintro (h | h)
    · exact .inl ((within_parent_iff dest.named).mp h).1
    · exact .inr h
  · rintro (h | h)
    · by_cases hsame : p.names = dest.path.names
      · have heq : p = dest.path := Machinery.Paths.Path.ext h.1 hsame
        exact .inr (heq ▸ dest.has_parent)
      · exact .inl ((within_parent_iff dest.named).mpr ⟨h, hsame⟩)
    · exact .inr h

/-! ## The directory that an update extracts to -/

/-- The text of `extractDir`. -/
def extractDir (dataDir asset : List Char) : List Char :=
  join [join [dataDir, ".beszel_update".toList], "extracted_".toList ++ asset]

theorem isName_extracted {asset : List Char} (hasset : '/' ∉ asset) :
    IsName ("extracted_".toList ++ asset) := by
  refine ⟨by simp, by simp, ?_⟩
  rw [List.mem_append, not_or]
  exact ⟨by decide, hasset⟩

theorem extracted_ne_up (asset : List Char) : "extracted_".toList ++ asset ≠ up := by
  simp [up]

/-- **An update has a directory to extract to**, once `downloadFile` has put the asset beside it. -/
def Dest.ofAsset (tree : Tree) (dataDir asset : List Char) (hdata : dataDir ≠ [])
    (hasset : '/' ∉ asset)
    (htree : tree.has (parse (join [dataDir, ".beszel_update".toList])) = true) : Dest tree :=
  have hrelease : join [dataDir, ".beszel_update".toList] ≠ [] := join_ne_nil hdata _
  { text := extractDir dataDir asset
    text_ne_nil := join_ne_nil hrelease _
    named := ⟨_, names_join hrelease (isName_extracted hasset) (extracted_ne_up asset) ▸
      List.mem_cons_self, extracted_ne_up asset⟩
    has_parent := (parent_join hrelease (isName_extracted hasset) (extracted_ne_up asset)).symm ▸
      htree }

/-! ## The formats -/

/-- The entries that extraction comes to: those after one that fails are left. -/
def reached (done : Entry → Bool) : List Entry → List Entry
  | [] => []
  | e :: entries => if done e then e :: reached done entries else [e]

/-- All steps come out well. -/
def Entry.done (e : Entry) : Bool :=
  if e.kind = .directory then e.mkdirs else e.mkdirs && (e.creates && e.copies)

/-- The name leads up only as far as it leads down again by the same names. -/
def Entry.Stays (e : Entry) (dest : Path) : Prop :=
  (dest.rooted = true ∨ climbs (elements e.name) ≤ dest.names.length) ∧
    dest.names.take (climbs (elements e.name)) <:+ rest (elements e.name)

/-- The directory that an entry is or goes to. -/
def Entry.directory (e : Entry) (destDir : List Char) : Path :=
  let path := parse (join [destDir, e.name])
  if e.kind = .directory then path else path.parent

/-- **An entry that does no harm**: its name stays within, or no file is written and the directory
is there already. -/
def Entry.Harmless (e : Entry) (dest : Dest tree) : Prop :=
  e.Stays dest.path ∨
    (e.kind = .directory ∨ e.mkdirs = false) ∧ tree.has (e.directory dest.text) = true

theorem Entry.stays_iff (e : Entry) (dest : Dest tree) :
    e.Stays dest.path ↔ dest.path.Within (parse (join [dest.text, e.name])) :=
  let ⟨hroot, hnames⟩ := parse_join dest.text_ne_nil e.name
  (within_iff hroot hnames).symm

/-- **What an entry of a tar archive writes is within exactly if the entry does no harm.** -/
theorem inside_tarEntry_iff (e : Entry) (dest : Dest tree) :
    (∀ call ∈ (tarEntry dest.text e).1, call.Inside dest) ↔ e.Harmless dest := by
  have hdir := parse_dir_join dest.text_ne_nil e.name
  have hstays := e.stays_iff dest
  unfold Entry.Harmless Entry.directory tarEntry
  by_cases hkind : e.kind = .directory
  · rw [if_pos hkind, List.forall_mem_singleton, inside_mkdirAll, ← hstays]
    simp only [hkind, if_true, true_or, true_and]
  · rw [if_neg hkind]
    by_cases hmkdirs : e.mkdirs = false
    · rw [if_pos hmkdirs, List.forall_mem_singleton, inside_mkdirAll, hdir, dest.parent_iff,
        ← hstays]
      simp only [hkind, hmkdirs, if_false, or_true, true_and]
    · have hnone : ¬(e.kind = .directory ∨ e.mkdirs = false) := not_or.mpr ⟨hkind, hmkdirs⟩
      rw [if_neg hmkdirs, List.forall_mem_cons, List.forall_mem_singleton, inside_mkdirAll,
        inside_create, hdir, dest.parent_iff, ← hstays]
      constructor
      · exact fun h => .inl h.2
      · rintro (h | h)
        · exact ⟨.inl h, h⟩
        · exact absurd h.1 hnone

/-- When an entry of a tar archive is extracted. -/
theorem tarEntry_done (destDir : List Char) (e : Entry) :
    (tarEntry destDir e).2 = none ↔ e.done = true := by
  unfold tarEntry Entry.done
  by_cases hkind : e.kind = .directory
  · rw [if_pos hkind, if_pos hkind]
    cases e.mkdirs <;> simp
  · rw [if_neg hkind, if_neg hkind]
    cases e.mkdirs with
    | false => simp
    | true => cases e.creates <;> cases e.copies <;> simp

/-- The calls of a run are those of the entries that it comes to. -/
theorem inside_each_iff (dest : Dest tree)
    {extractEntry : Entry → List Call × Option Failure} {done : Entry → Bool}
    (hdone : ∀ e, (extractEntry e).2 = none ↔ done e = true) (entries : List Entry) :
    (∀ call ∈ (each extractEntry entries).1, call.Inside dest) ↔
      ∀ e ∈ reached done entries, ∀ call ∈ (extractEntry e).1, call.Inside dest := by
  induction entries with
  | nil =>
    constructor
    · exact fun _ _ he => absurd he List.not_mem_nil
    · exact fun _ _ hcall => absurd hcall List.not_mem_nil
  | cons e entries ih =>
    have hdone := hdone e
    unfold each reached
    rcases he : extractEntry e with ⟨calls, _ | failure⟩
    · rw [he] at hdone
      rw [if_pos (hdone.mp rfl), List.forall_mem_cons, he, ← ih]
      exact List.forall_mem_append
    · rw [he] at hdone
      rw [if_neg (fun h => Option.some_ne_none failure (hdone.mpr h)), List.forall_mem_singleton,
        he]

/-- **A file of a zip archive is within**: the path of one that is not does not begin as it
should. -/
theorem inside_extractFile (dest : Dest tree) (zipFile : Entry) :
    ∀ call ∈ (extractFile (clean dest.text ++ ['/']) zipFile).1, call.Inside dest := by
  unfold extractFile
  dsimp only
  by_cases hprefix : (clean dest.text ++ ['/']).isPrefixOf
      (join [clean dest.text ++ ['/'], zipFile.name]) = false
  · rw [if_pos hprefix]
    exact fun _ h => absurd h List.not_mem_nil
  · have hne : clean dest.text ++ ['/'] ≠ [] := List.concat_ne_nil _ _
    have hdir := parse_dir_join hne zipFile.name
    have hjoin := join_eq hne zipFile.name
    have hpath := hjoin ▸ parse_clean (clean dest.text ++ ['/'] ++ '/' :: zipFile.name)
    rw [if_neg hprefix]
    obtain ⟨hwithin, hstrict⟩ := within_of_isPrefix dest.named
      (List.isPrefixOf_iff_prefix.mp (hjoin ▸ eq_true_of_ne_false hprefix))
    rw [← hpath] at hwithin hstrict
    have hparent := (within_parent_iff dest.named).mpr ⟨hwithin, hstrict⟩
    rw [← hdir] at hparent
    have hmkdir (perm : ℕ) : (Call.mkdirAll _ perm).Inside dest :=
      inside_mkdirAll.mpr (.inl hwithin)
    have hmkdirs (perm : ℕ) : (Call.mkdirAll _ perm).Inside dest :=
      inside_mkdirAll.mpr (.inl hparent)
    have hcreate (perm : ℕ) : (Call.create _ perm).Inside dest := inside_create.mpr hwithin
    by_cases hopens : zipFile.opens = false
    · rw [if_pos hopens]
      exact fun _ h => absurd h List.not_mem_nil
    · rw [if_neg hopens]
      cases zipFile.kind with
      | directory => exact List.forall_mem_singleton.mpr (hmkdir _)
      | irregular => exact fun _ h => absurd h List.not_mem_nil
      | regular =>
        by_cases hmade : zipFile.mkdirs = false
        · dsimp only
          rw [if_pos hmade]
          exact List.forall_mem_singleton.mpr (hmkdirs _)
        · dsimp only
          rw [if_neg hmade]
          exact List.forall_mem_cons.mpr ⟨hmkdirs _, List.forall_mem_singleton.mpr (hcreate _)⟩

theorem inside_extractZip (dest : Dest tree) (src : Archive) :
    ∀ call ∈ (extractZip src dest.text).1, call.Inside dest := by
  unfold extractZip
  split_ifs
  · exact fun _ h => absurd h List.not_mem_nil
  · have hdone (e : Entry) : (extractFile (clean dest.text ++ ['/']) e).2 = none ↔
        (extractFile (clean dest.text ++ ['/']) e).2.isNone = true := Option.isNone_iff_eq_none.symm
    exact (inside_each_iff dest hdone src.entries).mpr fun e _ => inside_extractFile dest e

theorem inside_extractTarGz_iff (dest : Dest tree) (src : Archive) :
    (∀ call ∈ (extractTarGz src dest.text).1, call.Inside dest) ↔
      src.opens = false ∨ ∀ e ∈ reached Entry.done src.entries, e.Harmless dest := by
  have heach := (inside_each_iff dest (tarEntry_done dest.text) src.entries).trans
    (forall₂_congr fun e _ => inside_tarEntry_iff e dest)
  unfold extractTarGz
  by_cases hopens : src.opens = false
  · rw [if_pos hopens]
    exact iff_of_true (fun _ h => absurd h List.not_mem_nil) (.inl hopens)
  · rw [if_neg hopens, or_iff_right hopens, ← heach]
    rcases each (tarEntry dest.text) src.entries with ⟨calls, _ | failure⟩
    · exact Iff.rfl
    · exact Iff.rfl

/-- **Extraction stays inside its directory exactly if** the archive is a zip archive, or cannot be
opened, or no entry of the tar archive that it comes to does harm. -/
theorem extract_inside_iff (tree : Tree) (dest : Dest tree) (srcPath : List Char) (src : Archive) :
    (∀ call ∈ (extract srcPath src dest.text).1, call.Inside dest) ↔
      ".tar.gz".toList.isSuffixOf srcPath = false ∨ src.opens = false ∨
        ∀ e ∈ reached Entry.done src.entries, e.Harmless dest := by
  unfold extract
  by_cases htar : ".tar.gz".toList.isSuffixOf srcPath = true
  · rw [if_pos htar, htar, inside_extractTarGz_iff]
    exact (or_iff_right Bool.noConfusion).symm
  · rw [if_neg htar]
    exact iff_of_true (inside_extractZip dest src) (.inl (eq_false_of_ne_true htar))

/-- The asset `beszel_linux_amd64.tar.gz`, downloaded to `/tmp/.beszel_update`. -/
def exampleDest : Dest (.upTo (parse (join ["/tmp".toList, ".beszel_update".toList]))) :=
  .ofAsset _ _ "beszel_linux_amd64.tar.gz".toList (by decide) (by decide)
    (decide_eq_true ⟨rfl, List.suffix_rfl⟩)

/-- **A tar archive writes where it names**: nothing checks that `..` leads out of the directory. -/
theorem not_inside_of_up :
    ¬∀ call ∈ (extract "/tmp/.beszel_update/beszel_linux_amd64.tar.gz".toList
        ⟨true, [⟨"../../evil".toList, .regular, 0o644, true, true, true, true⟩], true⟩
        exampleDest.text).1, call.Inside exampleDest := by
  intro h
  have hcall : Call.create (join [exampleDest.text, "../../evil".toList]) 0o666 ∈
      (extract "/tmp/.beszel_update/beszel_linux_amd64.tar.gz".toList
        ⟨true, [⟨"../../evil".toList, .regular, 0o644, true, true, true, true⟩], true⟩
        exampleDest.text).1 := by decide
  obtain ⟨-, below, -, hnames⟩ := inside_create.mp (h _ hcall)
  exact absurd ⟨below, hnames.symm⟩
    (by decide : ¬exampleDest.path.names <:+
      (parse (join [exampleDest.text, "../../evil".toList])).names)

end Update

end Beszel
