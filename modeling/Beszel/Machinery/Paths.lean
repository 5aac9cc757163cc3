import Beszel.Machinery.Split
import Mathlib.Data.List.Basic
import Mathlib.Data.List.Induction
import Mathlib.Tactic.SplitIfs

/-!
# Machinery/Paths — lexical paths

    a//b/./../c ──elements──▸ a, b, .., c ──resolve──▸ a, c ──▸ a/c

Paths as texts, in the lexical reading of Unix: elements are separated by slashes, an empty element
and `.` say nothing, and `..` takes back the element before it.  A `Path` is what is left: its
names, innermost first, in which `..` stands for a parent that is not known and so comes outermost
only.
`clean`, `join` and `dir` work on texts; `parse_clean`, `parse_join` and `parse_dir` say what they
are on paths, and `within_iff` when a name that is joined to a path stays within it.
-/

namespace Machinery

namespace Paths

/-! ## Elements -/

/-- The name of a file or a directory. -/
abbrev Name := List Char

/-- The parent. -/
def up : Name := ['.', '.']

/-- The elements that say something. -/
def elements (s : List Char) : List Name := (s.splitOn '/').filter fun n => n ≠ [] ∧ n ≠ ['.']

/-- An element is taken: `..` takes back the name before it.  There is nothing above the root. -/
def climb (rooted : Bool) (stack : List Name) (name : Name) : List Name :=
  if name ≠ up then name :: stack
  else
    match stack with
    | [] => if rooted then [] else [up]
    | top :: rest => if top = up then up :: top :: rest else rest

/-- Elements are taken one after the other. -/
def resolve (rooted : Bool) (stack names : List Name) : List Name :=
  names.foldl (climb rooted) stack

/-! ## Paths -/

/-- An element that says something. -/
def IsName (n : Name) : Prop := n ≠ [] ∧ n ≠ ['.'] ∧ '/' ∉ n

/-- **Normal** — above a `..` there are only `..`, and none below the root. -/
def Normal (rooted : Bool) : List Name → Prop
  | [] => True
  | n :: ns => IsName n ∧ Normal rooted ns ∧ (n = up → rooted = false ∧ ∀ m ∈ ns, m = up)

/-- **A path**: its names, innermost first. -/
@[ext] structure Path where
  rooted : Bool
  names : List Name
  normal : Normal rooted names

variable {rooted : Bool} {stack names : List Name} {n : Name}

theorem climb_of_ne (h : n ≠ up) : climb rooted stack n = n :: stack := if_pos h

theorem climb_up_nil : climb rooted [] up = if rooted then [] else [up] := rfl

theorem climb_up_cons {top : Name} :
    climb rooted (top :: stack) up = if top = up then up :: top :: stack else stack := rfl

theorem isName_up : IsName up := ⟨by decide, by decide, by decide⟩

theorem isName_of_mem_elements {s : List Char} (h : n ∈ elements s) : IsName n := by
  obtain ⟨hmem, hn⟩ := List.mem_filter.mp h
  obtain ⟨hne, hdot⟩ := of_decide_eq_true hn
  exact ⟨hne, hdot, notMem_of_mem_splitOn hmem⟩

theorem Normal.isName (h : Normal rooted names) : ∀ n ∈ names, IsName n := by
  induction names with
  | nil => exact fun _ h => absurd h List.not_mem_nil
  | cons m names ih => exact List.forall_mem_cons.mpr ⟨h.1, ih h.2.1⟩

/-- There is no `..` below the root. -/
theorem Normal.up_notMem (h : Normal true names) : up ∉ names := by
  induction names with
  | nil => exact List.not_mem_nil
  | cons n names ih =>
    rw [List.mem_cons, not_or]
    exact ⟨fun heq => Bool.noConfusion (h.2.2 heq.symm).1, ih h.2.1⟩

theorem normal_climb (h : Normal rooted stack) (hn : IsName n) :
    Normal rooted (climb rooted stack n) := by
  by_cases hup : n = up
  · subst hup
    cases stack with
    | nil =>
      cases rooted with
      | true => trivial
      | false => exact ⟨isName_up, trivial, fun _ => ⟨rfl, fun _ h => absurd h List.not_mem_nil⟩⟩
    | cons top rest =>
      rw [climb_up_cons]
      split_ifs with htop
      · obtain ⟨hroot, hrest⟩ := h.2.2 htop
        exact ⟨isName_up, h, fun _ => ⟨hroot, List.forall_mem_cons.mpr ⟨htop, hrest⟩⟩⟩
      · exact h.2.1
  · rw [climb_of_ne hup]
    exact ⟨hn, h, fun heq => absurd heq hup⟩

theorem normal_resolve (h : Normal rooted stack) (hnames : ∀ n ∈ names, IsName n) :
    Normal rooted (resolve rooted stack names) := by
  unfold resolve
  induction names generalizing stack with
  | nil => exact h
  | cons n names ih =>
    obtain ⟨hn, hnames⟩ := List.forall_mem_cons.mp hnames
    exact ih (normal_climb h hn) hnames

/-- The path of a text. -/
def parse (s : List Char) : Path where
  rooted := s.head? = some '/'
  names := resolve (s.head? = some '/') [] (elements s)
  normal := normal_resolve trivial fun _ => isName_of_mem_elements

/-- The text of a path. -/
def Path.toChars (p : Path) : List Char :=
  if p.rooted then '/' :: ['/'].intercalate p.names.reverse
  else if p.names = [] then ['.']
  else ['/'].intercalate p.names.reverse

/-- `filepath.Clean`. -/
def clean (s : List Char) : List Char := (parse s).toChars

/-- `filepath.Join`. -/
def join (elems : List (List Char)) : List Char :=
  match elems.dropWhile (· = []) with
  | [] => []
  | elem :: elems => clean (['/'].intercalate (elem :: elems))

/-- `filepath.Dir`. -/
def dir (s : List Char) : List Char := clean (s.reverse.dropWhile (· ≠ '/')).reverse

/-! ## Texts and paths -/

theorem elements_append_slash (a b : List Char) :
    elements (a ++ '/' :: b) = elements a ++ elements b := by
  unfold elements
  rw [List.splitOn_append_cons_self, List.filter_append]

theorem elements_nil : elements [] = [] := rfl

theorem elements_slash (s : List Char) : elements ('/' :: s) = elements s :=
  elements_append_slash [] s

/-- Names, joined, are the elements. -/
theorem elements_intercalate (h : ∀ n ∈ names, IsName n) :
    elements (['/'].intercalate names) = names := by
  by_cases hne : names = []
  · rw [hne]
    rfl
  · unfold elements
    rw [List.splitOn_intercalate '/' (fun n hn => (h n hn).2.2) hne]
    refine List.filter_eq_self.mpr fun n hn => decide_eq_true ⟨(h n hn).1, (h n hn).2.1⟩

theorem resolve_append (rooted : Bool) (stack a b : List Name) :
    resolve rooted stack (a ++ b) = resolve rooted (resolve rooted stack a) b := List.foldl_append

/-- What is normal is resolved. -/
theorem resolve_reverse (h : Normal rooted names) : resolve rooted [] names.reverse = names := by
  induction names with
  | nil => rfl
  | cons n names ih =>
    unfold resolve at ih ⊢
    rw [List.reverse_cons, List.foldl_append, ih h.2.1, List.foldl_cons, List.foldl_nil]
    by_cases hup : n = up
    · obtain ⟨hroot, hall⟩ := h.2.2 hup
      subst hup
      cases names with
      | nil =>
        rw [hroot]
        rfl
      | cons m names => rw [climb_up_cons, if_pos (hall m List.mem_cons_self)]
    · exact climb_of_ne hup

namespace Path

variable (p : Path)

theorem isName_reverse : ∀ n ∈ p.names.reverse, IsName n :=
  fun n hn => p.normal.isName n (List.mem_reverse.mp hn)

theorem elements_toChars : elements p.toChars = p.names.reverse := by
  unfold toChars
  split_ifs with hroot hnil
  · rw [elements_slash, elements_intercalate p.isName_reverse]
  · rw [hnil]
    rfl
  · exact elements_intercalate p.isName_reverse

/-- A text starts with a slash if the path starts at the root. -/
theorem head?_toChars : p.toChars.head? = some '/' ↔ p.rooted = true := by
  unfold toChars
  split_ifs with hroot hnil
  · exact iff_of_true rfl hroot
  · exact iff_of_false (by decide) hroot
  · obtain ⟨n, names, hnames⟩ :=
      List.exists_cons_of_ne_nil (mt List.reverse_eq_nil_iff.mp hnil)
    have hn := p.isName_reverse n (hnames ▸ List.mem_cons_self)
    obtain ⟨c, cs, rfl⟩ := List.exists_cons_of_ne_nil hn.1
    rw [hnames, List.intercalate_cons_cons_left, List.head?_cons]
    exact iff_of_false (fun h => hn.2.2 (Option.some.inj h ▸ List.mem_cons_self)) hroot

/-- **A path is known by its text.** -/
theorem parse_toChars : parse p.toChars = p := by
  have hroot : decide (p.toChars.head? = some '/') = p.rooted := by
    rw [Bool.eq_iff_iff, decide_eq_true_eq]
    exact p.head?_toChars
  refine Path.ext hroot ?_
  change resolve (decide _) [] (elements _) = _
  rw [hroot, elements_toChars, resolve_reverse p.normal]

/-- The directory that the path is in; that of the root is the root. -/
def parent : Path where
  rooted := p.rooted
  names := p.names.tail
  normal := by
    cases h : p.names with
    | nil => trivial
    | cons n names => exact (h ▸ p.normal : Normal p.rooted (n :: names)).2.1

theorem intercalate_concat (hne : names ≠ []) :
    ['/'].intercalate (names ++ [n]) = ['/'].intercalate names ++ '/' :: n := by
  induction names with
  | nil => exact absurd rfl hne
  | cons m names ih =>
    by_cases h : names = []
    · subst h
      rw [List.cons_append, List.nil_append, List.intercalate_cons_cons, List.intercalate_singleton,
        List.intercalate_singleton, List.append_assoc]
      rfl
    · rw [List.cons_append, List.intercalate_cons_of_ne_nil (List.append_ne_nil_of_left_ne_nil h _),
        List.intercalate_cons_of_ne_nil h, ih h, List.append_assoc, List.append_assoc,
        List.append_assoc]

theorem toChars_ne_nil : p.toChars ≠ [] := by
  unfold toChars
  split_ifs with hroot hnil
  · exact List.cons_ne_nil _ _
  · exact List.cons_ne_nil _ _
  · obtain ⟨n, names, hnames⟩ :=
      List.exists_cons_of_ne_nil (mt List.reverse_eq_nil_iff.mp hnil)
    have hn := p.isName_reverse n (hnames ▸ List.mem_cons_self)
    obtain ⟨c, cs, rfl⟩ := List.exists_cons_of_ne_nil hn.1
    rw [hnames, List.intercalate_cons_cons_left]
    exact List.cons_ne_nil _ _

/-- The text of a path that ends in the name `n`. -/
theorem toChars_cons (hnames : p.names = n :: names) :
    p.toChars = (if names = [] then if p.rooted then ['/'] else []
      else p.parent.toChars ++ ['/']) ++ n := by
  have hreverse : p.names.reverse = names.reverse ++ [n] := by rw [hnames, List.reverse_cons]
  have hne : p.names ≠ [] := hnames ▸ List.cons_ne_nil n names
  have hparent : p.parent.names = names := congrArg List.tail hnames
  have hroot : p.parent.rooted = p.rooted := rfl
  unfold toChars
  rw [hreverse, hparent, hroot, if_neg hne]
  by_cases h : names = []
  · subst h
    rw [List.reverse_nil, List.nil_append, List.intercalate_singleton]
    cases p.rooted <;> rfl
  · rw [if_neg h, if_neg h, intercalate_concat (mt List.reverse_eq_nil_iff.mp h)]
    cases p.rooted <;> simp

/-- What `filepath.Dir` keeps of a text. -/
theorem dropWhile_append {s : List Char} (hs : s = [] ∨ ∃ t, s = t ++ ['/']) (hn : '/' ∉ n) :
    ((s ++ n).reverse.dropWhile (· ≠ '/')).reverse = s := by
  rw [List.reverse_append, List.dropWhile_append_of_pos]
  · rcases hs with rfl | ⟨t, rfl⟩
    · rfl
    · rw [List.reverse_append, List.reverse_singleton, List.singleton_append,
        List.dropWhile_cons_of_neg (by decide), List.reverse_cons, List.reverse_reverse]
  · intro c hc
    exact decide_eq_true fun heq => hn (heq ▸ List.mem_reverse.mp hc)

end Path

/-- Cleaning keeps the path. -/
theorem parse_clean (s : List Char) : parse (clean s) = parse s := (parse s).parse_toChars

/-- A text that is joined to one with a beginning. -/
theorem join_eq {s : List Char} (hs : s ≠ []) (t : List Char) :
    join [s, t] = clean (s ++ '/' :: t) := by
  unfold join
  rw [List.dropWhile_cons_of_neg (by simpa using hs)]
  change clean (['/'].intercalate [s, t]) = _
  rw [List.intercalate_cons_cons, List.intercalate_singleton, List.append_assoc]
  rfl

/-- …as a path. -/
theorem parse_join {s : List Char} (hs : s ≠ []) (t : List Char) :
    (parse (join [s, t])).rooted = (parse s).rooted ∧
      (parse (join [s, t])).names =
        resolve (parse s).rooted (parse s).names (elements t) := by
  have hhead : (s ++ '/' :: t).head? = s.head? := by
    obtain ⟨c, cs, rfl⟩ := List.exists_cons_of_ne_nil hs
    rfl
  rw [join_eq hs, parse_clean]
  unfold parse
  dsimp only
  rw [hhead, elements_append_slash]
  exact ⟨rfl, resolve_append _ [] _ _⟩

/-- A slash at the end says nothing. -/
theorem parse_append_slash {s : List Char} (hs : s ≠ []) : parse (s ++ ['/']) = parse s := by
  have hhead : (s ++ ['/']).head? = s.head? := by
    obtain ⟨c, cs, rfl⟩ := List.exists_cons_of_ne_nil hs
    rfl
  unfold parse
  simp only [hhead, elements_append_slash, elements_nil, List.append_nil]

/-- **The directory of a path.** -/
theorem parse_dir (p : Path) : parse (dir p.toChars) = p.parent := by
  unfold dir
  rw [parse_clean]
  cases hnames : p.names with
  | nil =>
    have hparent : p.parent.names = [] := congrArg List.tail hnames
    unfold Path.toChars
    rw [hnames]
    cases hroot : p.rooted with
    | true => exact Path.ext hroot.symm hparent.symm
    | false => exact Path.ext hroot.symm hparent.symm
  | cons n names =>
    have hn : '/' ∉ n := (p.normal.isName n (hnames ▸ List.mem_cons_self)).2.2
    have hparent : p.parent.names = names := congrArg List.tail hnames
    rw [p.toChars_cons hnames, Path.dropWhile_append ?_ hn]
    · split_ifs with h hroot
      · exact Path.ext hroot.symm (hparent.trans h).symm
      · exact Path.ext (eq_false_of_ne_true hroot).symm (hparent.trans h).symm
      · rw [parse_append_slash p.parent.toChars_ne_nil, Path.parse_toChars]
    · split_ifs
      · exact .inr ⟨[], rfl⟩
      · exact .inl rfl
      · exact .inr ⟨_, rfl⟩

theorem join_ne_nil {s : List Char} (hs : s ≠ []) (t : List Char) : join [s, t] ≠ [] := by
  rw [join_eq hs]
  exact Path.toChars_ne_nil _

/-- A name that is joined is the innermost. -/
theorem names_join {s : List Char} (hs : s ≠ []) (hn : IsName n) (hup : n ≠ up) :
    (parse (join [s, n])).names = n :: (parse s).names := by
  have helements : elements n = [n] := by
    have hsingle := elements_intercalate (List.forall_mem_singleton.mpr hn)
    rwa [List.intercalate_singleton] at hsingle
  rw [(parse_join hs n).2, helements]
  exact climb_of_ne hup

/-- …and its directory is what it is joined to. -/
theorem parent_join {s : List Char} (hs : s ≠ []) (hn : IsName n) (hup : n ≠ up) :
    (parse (join [s, n])).parent = parse s :=
  Path.ext (parse_join hs n).1 (congrArg List.tail (names_join hs hn hup))

theorem parse_dir_join {s : List Char} (hs : s ≠ []) (t : List Char) :
    parse (dir (join [s, t])) = (parse (join [s, t])).parent := by
  rw [join_eq hs, parse_clean]
  exact parse_dir _

/-! ## The characters of a path -/

theorem mem_intercalate {c : Char} (h : c ∈ ['/'].intercalate names) :
    c = '/' ∨ ∃ n ∈ names, c ∈ n := by
  induction names with
  | nil => exact absurd h List.not_mem_nil
  | cons n names ih =>
    by_cases hnil : names = []
    · rw [hnil, List.intercalate_singleton] at h
      exact .inr ⟨n, List.mem_cons_self, h⟩
    · rw [List.intercalate_cons_of_ne_nil hnil, List.append_assoc, List.mem_append,
        List.mem_append, List.mem_singleton] at h
      rcases h with h | h | h
      · exact .inr ⟨n, List.mem_cons_self, h⟩
      · exact .inl h
      · exact (ih h).imp_right fun ⟨m, hm, hc⟩ => ⟨m, List.mem_cons_of_mem _ hm, hc⟩

theorem mem_climb {m : Name} (h : m ∈ climb rooted stack n) : m ∈ stack ∨ m = n ∨ m = up := by
  by_cases hup : n = up
  · subst hup
    cases stack with
    | nil =>
      rw [climb_up_nil] at h
      split_ifs at h
      · exact absurd h List.not_mem_nil
      · exact .inr (.inl (List.mem_singleton.mp h))
    | cons top rest =>
      rw [climb_up_cons] at h
      split_ifs at h
      · rcases List.mem_cons.mp h with h | h
        · exact .inr (.inl h)
        · exact .inl h
      · exact .inl (List.mem_cons_of_mem _ h)
  · rw [climb_of_ne hup] at h
    rcases List.mem_cons.mp h with h | h
    · exact .inr (.inl h)
    · exact .inl h

theorem mem_resolve {m : Name} (h : m ∈ resolve rooted stack names) :
    m ∈ stack ∨ m ∈ names ∨ m = up := by
  unfold resolve at h
  induction names generalizing stack with
  | nil => exact .inl h
  | cons n names ih =>
    rcases ih h with h | h | h
    · rcases mem_climb h with h | h | h
      · exact .inl h
      · exact .inr (.inl (h ▸ List.mem_cons_self))
      · exact .inr (.inr h)
    · exact .inr (.inl (List.mem_cons_of_mem _ h))
    · exact .inr (.inr h)

/-- **Cleaning adds slashes and dots only.** -/
theorem mem_clean {s : List Char} {c : Char} (h : c ∈ clean s) : c ∈ s ∨ c = '/' ∨ c = '.' := by
  have hnames {c : Char} (h : c ∈ ['/'].intercalate (parse s).names.reverse) :
      c ∈ s ∨ c = '/' ∨ c = '.' := by
    rcases mem_intercalate h with h | ⟨n, hn, hc⟩
    · exact .inr (.inl h)
    · rcases mem_resolve (List.mem_reverse.mp hn) with h | h | rfl
      · exact absurd h List.not_mem_nil
      · exact .inl (mem_of_mem_splitOnP (List.mem_filter.mp h).1 c hc)
      · refine .inr (.inr ?_)
        simpa [up] using hc
  unfold clean Path.toChars at h
  split_ifs at h
  · rcases List.mem_cons.mp h with h | h
    · exact .inr (.inl h)
    · exact hnames h
  · exact .inr (.inr (List.mem_singleton.mp h))
  · exact hnames h

theorem notMem_join {s t : List Char} {c : Char} (hslash : c ≠ '/') (hdot : c ≠ '.') (hs : c ∉ s)
    (ht : c ∉ t) : c ∉ join [s, t] := by
  have hclean {s : List Char} (hs : c ∉ s) : c ∉ clean s := by
    intro h
    rcases mem_clean h with h | h | h
    · exact hs h
    · exact hslash h
    · exact hdot h
  by_cases hnil : s = []
  · subst hnil
    by_cases htnil : t = []
    · subst htnil
      exact List.not_mem_nil
    · have hjoin : join [[], t] = clean t := by
        unfold join
        rw [List.dropWhile_cons_of_pos (by rfl), List.dropWhile_cons_of_neg (by simpa using htnil)]
        exact congrArg clean List.intercalate_singleton
      rw [hjoin]
      exact hclean ht
  · rw [join_eq hnil]
    refine hclean fun h => ?_
    rw [List.mem_append, List.mem_cons] at h
    rcases h with h | h | h
    · exact hs h
    · exact hslash h
    · exact ht h

/-! ## What stays within a path -/

/-- **The path `p` is `dest`, or below it.** -/
def Path.Within (dest p : Path) : Prop :=
  p.rooted = dest.rooted ∧ ∃ below, up ∉ below ∧ p.names = below ++ dest.names

/-- How often elements lead up, after all. -/
def climbs (names : List Name) : ℕ := (resolve false [] names).count up

/-- …and where they lead from there. -/
def rest (names : List Name) : List Name := (resolve false [] names).takeWhile (· ≠ up)

theorem resolve_replicate_up (k : ℕ) :
    resolve false [] (List.replicate k up) = List.replicate k up := by
  have hnormal : Normal false (List.replicate k up) := by
    induction k with
    | zero => trivial
    | succ k ih => exact ⟨isName_up, ih, fun _ => ⟨rfl, fun _ => List.eq_of_mem_replicate⟩⟩
  have h := resolve_reverse hnormal
  rwa [List.reverse_replicate] at h

/-- **Elements lead up and from there down**, wherever they start. -/
theorem resolve_eq (rooted : Bool) (stack names : List Name) :
    up ∉ rest names ∧ resolve rooted stack names =
      rest names ++ resolve rooted stack (List.replicate (climbs names) up) := by
  have hexists : ∀ names : List Name, ∃ below k, up ∉ below ∧ ∀ rooted stack,
      resolve rooted stack names = below ++ resolve rooted stack (List.replicate k up) := by
    intro names
    induction names using List.reverseRecOn with
    | nil => exact ⟨[], 0, List.not_mem_nil, fun _ _ => rfl⟩
    | append_singleton names n ih =>
      obtain ⟨below, k, hbelow, hresolve⟩ := ih
      have hstep : ∀ rooted stack, resolve rooted stack (names ++ [n]) =
          climb rooted (below ++ resolve rooted stack (List.replicate k up)) n := by
        intro rooted stack
        rw [← hresolve]
        exact resolve_append rooted stack names [n]
      by_cases hup : n = up
      · subst hup
        cases below with
        | nil =>
          refine ⟨[], k + 1, hbelow, fun rooted stack => ?_⟩
          rw [hstep, List.replicate_succ', List.nil_append, List.nil_append]
          exact (resolve_append rooted stack _ [up]).symm
        | cons top below =>
          obtain ⟨htop, hbelow⟩ := not_or.mp (mt List.mem_cons.mpr hbelow)
          refine ⟨below, k, hbelow, fun rooted stack => ?_⟩
          rw [hstep, List.cons_append, climb_up_cons, if_neg (Ne.symm htop)]
      · refine ⟨n :: below, k, ?_, fun rooted stack => ?_⟩
        · rw [List.mem_cons, not_or]
          exact ⟨Ne.symm hup, hbelow⟩
        · rw [hstep, climb_of_ne hup, List.cons_append]
  obtain ⟨below, k, hbelow, hresolve⟩ := hexists names
  have hrelative : resolve false [] names = below ++ List.replicate k up := by
    rw [hresolve, resolve_replicate_up]
  have hclimbs : climbs names = k := by
    rw [climbs, hrelative, List.count_append, List.count_eq_zero_of_not_mem hbelow,
      List.count_replicate_self, Nat.zero_add]
  have hrest : rest names = below := by
    have hall : ∀ n ∈ below, decide (n ≠ up) = true :=
      fun n hn => decide_eq_true fun heq => hbelow (heq ▸ hn)
    rw [rest, hrelative, List.takeWhile_append_of_pos hall]
    cases k with
    | zero => exact List.append_nil _
    | succ k => exact List.append_nil _
  rw [hclimbs, hrest]
  exact ⟨hbelow, hresolve rooted stack⟩

section Back

variable {k : ℕ}

theorem resolve_replicate_succ :
    resolve rooted stack (List.replicate (k + 1) up) =
      resolve rooted (climb rooted stack up) (List.replicate k up) := rfl

/-- Below the root, names are taken back until there are none. -/
theorem resolve_back_rooted (h : up ∉ stack) :
    resolve true stack (List.replicate k up) = stack.drop k := by
  induction k generalizing stack with
  | zero => rfl
  | succ k ih =>
    rw [resolve_replicate_succ]
    cases stack with
    | nil => exact (ih List.not_mem_nil).trans List.drop_nil
    | cons top stack =>
      obtain ⟨htop, hstack⟩ := not_or.mp (mt List.mem_cons.mpr h)
      rw [climb_up_cons, if_neg (Ne.symm htop), ih hstack]
      rfl

/-- Elsewhere, if there are enough of them. -/
theorem resolve_back (hlength : k ≤ stack.length) (h : up ∉ stack.take k) :
    resolve false stack (List.replicate k up) = stack.drop k := by
  induction k generalizing stack with
  | zero => rfl
  | succ k ih =>
    rw [resolve_replicate_succ]
    cases stack with
    | nil => exact absurd hlength (Nat.not_succ_le_zero k)
    | cons top stack =>
      obtain ⟨htop, hstack⟩ := not_or.mp (mt List.mem_cons.mpr h)
      rw [climb_up_cons, if_neg (Ne.symm htop), ih (Nat.le_of_succ_le_succ hlength) hstack]
      rfl

/-- …and if not, there is a `..` more. -/
theorem of_count_resolve_le (h : (resolve false stack (List.replicate k up)).count up ≤
    stack.count up) : k ≤ stack.length ∧ up ∉ stack.take k := by
  have hmono : ∀ (k : ℕ) (stack : List Name), stack.count up ≤
      (resolve false stack (List.replicate k up)).count up := by
    intro k
    induction k with
    | zero => exact fun _ => Nat.le_refl _
    | succ k ih =>
      intro stack
      rw [resolve_replicate_succ]
      refine Nat.le_trans ?_ (ih _)
      cases stack with
      | nil => exact Nat.zero_le _
      | cons top stack =>
        rw [climb_up_cons]
        split_ifs with htop
        · rw [List.count_cons_self]
          exact Nat.le_succ _
        · exact Nat.le_of_eq (List.count_cons_of_ne htop)
  induction k generalizing stack with
  | zero => exact ⟨Nat.zero_le _, List.not_mem_nil⟩
  | succ k ih =>
    rw [resolve_replicate_succ] at h
    cases stack with
    | nil =>
      have hone := Nat.le_trans (hmono k [up]) h
      exact absurd hone (by decide)
    | cons top stack =>
      rw [climb_up_cons] at h
      split_ifs at h with htop
      · have hmore := Nat.le_trans (hmono k _) h
        rw [List.count_cons_self] at hmore
        exact absurd hmore (Nat.not_succ_le_self _)
      · rw [List.count_cons_of_ne htop] at h
        obtain ⟨hlength, hnot⟩ := ih h
        refine ⟨Nat.succ_le_succ hlength, ?_⟩
        rw [List.take_succ_cons, List.mem_cons, not_or]
        exact ⟨Ne.symm htop, hnot⟩

end Back

/-- **When elements stay within the path they start from**: if they lead up, they lead down again by
the names that they took back. -/
theorem within_iff {dest p : Path} (hroot : p.rooted = dest.rooted)
    (hnames : p.names = resolve dest.rooted dest.names names) :
    dest.Within p ↔ (dest.rooted = true ∨ climbs names ≤ dest.names.length) ∧
      dest.names.take (climbs names) <:+ rest names := by
  obtain ⟨hrest, hresolve⟩ := resolve_eq dest.rooted dest.names names
  have hcore : resolve dest.rooted dest.names (List.replicate (climbs names) up) =
      dest.names.drop (climbs names) →
        (dest.Within p ↔ dest.names.take (climbs names) <:+ rest names) := by
    intro hback
    rw [hback] at hresolve
    constructor
    · rintro ⟨-, below, -, hbelow⟩
      refine ⟨below, ?_⟩
      rw [hnames, hresolve] at hbelow
      have hsplit : rest names ++ dest.names.drop (climbs names) =
          (below ++ dest.names.take (climbs names)) ++ dest.names.drop (climbs names) := by
        rw [hbelow, List.append_assoc, List.take_append_drop]
      exact (List.append_cancel_right hsplit).symm
    · rintro ⟨below, hbelow⟩
      refine ⟨hroot, below, fun hup => hrest (hbelow ▸ List.mem_append_left _ hup), ?_⟩
      rw [hnames, hresolve, ← hbelow, List.append_assoc, List.take_append_drop]
  by_cases hrooted : dest.rooted = true
  · have hnot : up ∉ dest.names := (hrooted ▸ dest.normal).up_notMem
    rw [hcore (by rw [hrooted, resolve_back_rooted hnot]), hrooted]
    simp
  · have hfalse : dest.rooted = false := eq_false_of_ne_true hrooted
    rw [or_iff_right hrooted]
    constructor
    · intro hwithin
      obtain ⟨-, below, hbelow, heq⟩ := id hwithin
      have hcount : (resolve false dest.names (List.replicate (climbs names) up)).count up ≤
          dest.names.count up := by
        have hboth := hnames.symm.trans heq
        rw [hresolve, hfalse] at hboth
        have := congrArg (List.count up) hboth
        rw [List.count_append, List.count_append, List.count_eq_zero_of_not_mem hrest,
          List.count_eq_zero_of_not_mem hbelow] at this
        omega
      obtain ⟨hlength, hnot⟩ := of_count_resolve_le hcount
      exact ⟨hlength, (hcore (by rw [hfalse, resolve_back hlength hnot])).mp hwithin⟩
    · rintro ⟨hlength, hsuffix⟩
      have hnot : up ∉ dest.names.take (climbs names) := fun h => hrest (hsuffix.mem h)
      exact (hcore (by rw [hfalse, resolve_back hlength hnot])).mpr hsuffix

/-- A path has a name of its own: it is not the root, nor made of `..` alone. -/
def Path.Named (p : Path) : Prop := ∃ n ∈ p.names, n ≠ up

/-- Below a path with a name there is no `..`. -/
theorem up_notMem_of_append {below dest : List Name} (h : Normal rooted (below ++ dest))
    (hnamed : ∃ n ∈ dest, n ≠ up) : up ∉ below := by
  induction below with
  | nil => exact List.not_mem_nil
  | cons m below ih =>
    rw [List.mem_cons, not_or]
    refine ⟨fun heq => ?_, ih h.2.1⟩
    obtain ⟨n, hn, hne⟩ := hnamed
    exact hne ((h.2.2 heq.symm).2 n (List.mem_append_right _ hn))

/-- **The directory of a path is within exactly if the path is strictly.** -/
theorem within_parent_iff {dest p : Path} (hnamed : dest.Named) :
    dest.Within p.parent ↔ dest.Within p ∧ p.names ≠ dest.names := by
  constructor
  · rintro ⟨hroot, below, hbelow, hnames⟩
    have htail : p.names.tail = below ++ dest.names := hnames
    cases hp : p.names with
    | nil =>
      obtain ⟨n, hn, -⟩ := hnamed
      rw [hp] at htail
      exact absurd (List.append_eq_nil_iff.mp htail.symm).2 (List.ne_nil_of_mem hn)
    | cons n names =>
      obtain rfl : names = below ++ dest.names := by rw [hp] at htail; exact htail
      have hnormal : Normal p.rooted ((n :: below) ++ dest.names) := by
        rw [List.cons_append, ← hp]
        exact p.normal
      refine ⟨⟨hroot, n :: below, up_notMem_of_append hnormal hnamed, hp⟩, fun heq => ?_⟩
      have hlength := congrArg List.length heq
      rw [List.length_cons, List.length_append] at hlength
      omega
  · rintro ⟨⟨hroot, below, hbelow, hnames⟩, hne⟩
    refine ⟨hroot, below.tail, fun hup => hbelow (List.mem_of_mem_tail hup), ?_⟩
    obtain ⟨m, below, rfl⟩ :=
      List.exists_cons_of_ne_nil (fun hnil : below = [] => hne (by rw [hnames, hnil]; rfl))
    exact congrArg List.tail hnames

/-- **What begins with the text of a path and a slash is strictly within it.** -/
theorem within_of_isPrefix {dest p : Path} (hnamed : dest.Named)
    (h : dest.toChars ++ ['/'] <+: p.toChars) : dest.Within p ∧ p.names ≠ dest.names := by
  obtain ⟨tail, htail⟩ := h
  have hsplit : p.toChars = dest.toChars ++ '/' :: tail := by
    rw [← htail, List.append_assoc]
    rfl
  have hroot : p.rooted = dest.rooted := by
    obtain ⟨c, cs, hchars⟩ := List.exists_cons_of_ne_nil dest.toChars_ne_nil
    rw [Bool.eq_iff_iff, ← p.head?_toChars, ← dest.head?_toChars, hsplit, hchars]
    rfl
  have hnames : p.names = (elements tail).reverse ++ dest.names := by
    have helements := p.elements_toChars
    rw [hsplit, elements_append_slash, dest.elements_toChars] at helements
    have hreverse := congrArg List.reverse helements
    rwa [List.reverse_append, List.reverse_reverse, List.reverse_reverse, eq_comm] at hreverse
  refine ⟨⟨hroot, _, up_notMem_of_append (hnames ▸ p.normal) hnamed, hnames⟩, fun heq => ?_⟩
  have hsame : p = dest := Path.ext hroot heq
  have hlength := congrArg List.length hsplit
  rw [hsame, List.length_append, List.length_cons] at hlength
  omega

end Paths

end Machinery
