import Beszel.Machinery.Split
import Mathlib.Data.List.DropRight
import Mathlib.Data.String.Basic

/-!
# Common/Text — the string functions of the Go standard library that the agent's parsers use
-/

namespace Beszel

namespace GoText

/-- `unicode.IsSpace`. -/
def isSpace (c : Char) : Bool :=
  c.val = 0x20 || 0x09 ≤ c.val && c.val ≤ 0x0d || c.val = 0x85 || c.val = 0xa0 ||
    c.val = 0x1680 || 0x2000 ≤ c.val && c.val ≤ 0x200a || c.val = 0x2028 || c.val = 0x2029 ||
    c.val = 0x202f || c.val = 0x205f || c.val = 0x3000

/-- The printable characters of ASCII, but for the blank, are no spaces. -/
theorem isSpace_of_printable {c : Char} (hlow : 0x20 < c.val.toNat) (hhigh : c.val.toNat < 0x85) :
    isSpace c = false := by
  rw [← Bool.not_eq_true]
  intro hspace
  simp only [isSpace, Bool.or_eq_true, Bool.and_eq_true, decide_eq_true_eq,
    UInt32.le_iff_toNat_le, ← UInt32.toNat_inj, UInt32.reduceToNat] at hspace
  omega

/-- `strings.TrimSpace`. -/
def trimSpace (s : String) : String :=
  String.ofList ((s.toList.dropWhile isSpace).reverse.dropWhile isSpace).reverse

/-- Trimming once is enough. -/
theorem trimSpace_trimSpace (s : String) : trimSpace (trimSpace s) = trimSpace s := by
  have hstart : ∀ l : List Char, ((l.dropWhile isSpace).rdropWhile isSpace).dropWhile isSpace =
      (l.dropWhile isSpace).rdropWhile isSpace := by
    intro l
    refine List.dropWhile_eq_self_iff.mpr fun hlen => ?_
    have hstart := List.rdropWhile_prefix isSpace (l := l.dropWhile isSpace)
    rw [hstart.getElem hlen]
    exact List.dropWhile_eq_self_iff.mp (List.dropWhile_idempotent isSpace l) _
  have htrim : ∀ s, trimSpace s =
      String.ofList ((s.toList.dropWhile isSpace).rdropWhile isSpace) := fun _ => rfl
  rw [htrim, htrim, String.toList_ofList, hstart, List.rdropWhile_idempotent]

/-- Neither end is a space. -/
structure IsTrimmed (word : List Char) : Prop where
  head : ∀ c ∈ word.head?, isSpace c = false
  last : ∀ c ∈ word.getLast?, isSpace c = false

theorem isTrimmed_of_forall {word : List Char} (h : ∀ c ∈ word, isSpace c = false) :
    IsTrimmed word :=
  ⟨fun c hc => h c (List.mem_of_mem_head? hc), fun c hc => h c (List.mem_of_getLast? hc)⟩

/-- **Trimming takes off what is around a word.** -/
theorem trimSpace_pad {before word after : List Char} (hbefore : ∀ c ∈ before, isSpace c)
    (hword : IsTrimmed word) (hafter : ∀ c ∈ after, isSpace c) :
    trimSpace (String.ofList (before ++ word ++ after)) = String.ofList word := by
  have hlast : word.rdropWhile isSpace = word := by
    refine List.rdropWhile_eq_self_iff.mpr fun hne => ?_
    simp [hword.last _ (List.getLast?_eq_some_getLast hne)]
  have hend : (word ++ after).rdropWhile isSpace = word := by
    rw [List.rdropWhile, List.reverse_append,
      List.dropWhile_append_of_pos fun c hc => hafter c (List.mem_reverse.mp hc)]
    exact hlast
  have hstart : (word ++ after).dropWhile isSpace = word ++ after ∨ word = [] := by
    cases word with
    | nil => exact .inr rfl
    | cons c cs => exact .inl (List.dropWhile_cons_of_neg (by simp [hword.head c rfl]))
  unfold trimSpace
  rw [String.toList_ofList, List.append_assoc, List.dropWhile_append_of_pos hbefore]
  rcases hstart with hstart | rfl
  · rw [hstart]
    exact congrArg String.ofList hend
  · rw [List.nil_append, List.dropWhile_eq_nil_iff.mpr hafter]
    rfl

/-- A word is not trimmed. -/
theorem trimSpace_word {word : List Char} (h : IsTrimmed word) :
    trimSpace (String.ofList word) = String.ofList word := by
  have htrim : trimSpace (String.ofList ([] ++ word ++ [])) = String.ofList word :=
    trimSpace_pad (by simp) h (by simp)
  rwa [List.nil_append, List.append_nil] at htrim

/-- Where a text starts with a word, only what follows is trimmed. -/
theorem trimSpace_append {start : List Char} (hstart : IsTrimmed start) (hne : start ≠ [])
    (rest : List Char) :
    ∃ rest', trimSpace (String.ofList (start ++ rest)) = String.ofList (start ++ rest') := by
  have hlast : ∀ c ∈ (start ++ rest.rdropWhile isSpace).getLast?, isSpace c = false := by
    intro c hc
    by_cases hnil : rest.rdropWhile isSpace = []
    · rw [hnil, List.append_nil] at hc
      exact hstart.last c hc
    · rw [List.getLast?_append_of_ne_nil _ hnil, List.getLast?_eq_some_getLast hnil,
        Option.mem_some_iff] at hc
      rw [← hc]
      simpa using List.rdropWhile_last_not isSpace rest hnil
  have hword : IsTrimmed (start ++ rest.rdropWhile isSpace) := by
    refine ⟨fun c hc => hstart.head c ?_, hlast⟩
    rwa [List.head?_append_of_ne_nil _ hne] at hc
  refine ⟨rest.rdropWhile isSpace, ?_⟩
  have htrim : trimSpace (String.ofList
      ([] ++ (start ++ rest.rdropWhile isSpace) ++ rest.rtakeWhile isSpace)) =
        String.ofList (start ++ rest.rdropWhile isSpace) :=
    trimSpace_pad (by simp) hword fun c hc => List.mem_rtakeWhile_imp hc
  rwa [List.nil_append, List.append_assoc, List.rdropWhile_append_rtakeWhile] at htrim

/-- Every text is a word with spaces around it, if any. -/
theorem exists_pad (text : List Char) : ∃ before word after, text = before ++ word ++ after ∧
    (∀ c ∈ before, isSpace c) ∧ IsTrimmed word ∧ ∀ c ∈ after, isSpace c := by
  have hhead : ∀ c ∈ (text.dropWhile isSpace).head?, isSpace c = false := by
    intro c hc
    have hnot := List.head?_dropWhile_not isSpace text
    rw [Option.mem_def] at hc
    simpa [hc] using hnot
  refine ⟨text.takeWhile isSpace, (text.dropWhile isSpace).rdropWhile isSpace,
    (text.dropWhile isSpace).rtakeWhile isSpace, ?_, fun c hc => List.mem_takeWhile_imp hc,
    ⟨fun c hc => hhead c ?_, fun c hc => ?_⟩, fun c hc => List.mem_rtakeWhile_imp hc⟩
  · rw [List.append_assoc, List.rdropWhile_append_rtakeWhile, List.takeWhile_append_dropWhile]
  · obtain ⟨rest, hrest⟩ := List.rdropWhile_prefix isSpace (l := text.dropWhile isSpace)
    rw [Option.mem_def] at hc ⊢
    rw [← hrest, List.head?_append, hc]
    rfl
  · obtain ⟨hne, rfl⟩ := List.mem_getLast?_eq_getLast hc
    simpa using List.rdropWhile_last_not isSpace _ hne

/-- `strings.TrimPrefix`. -/
def trimStart (s start : String) : String :=
  if start.toList.isPrefixOf s.toList then String.ofList (s.toList.drop start.length) else s

/-- `strings.TrimSuffix`. -/
def trimEnd (s ending : String) : String :=
  if ending.toList.isSuffixOf s.toList then
    String.ofList (s.toList.take (s.length - ending.length))
  else s

/-- `unicode.ToLower`, for a text that is compared with ASCII letters only: besides the ASCII
letters, `İ` and the Kelvin sign have an ASCII letter as their lower case. -/
def lowerChar (c : Char) : Char :=
  if c.val = 0x130 then 'i' else if c.val = 0x212a then 'k' else c.toLower

/-- `strings.ToLower`, for such a text. -/
def toLower (s : String) : String := String.ofList (s.toList.map lowerChar)

/-- `unicode.ToUpper`, for such a text: besides the ASCII letters, `ı` and `ſ` have an ASCII one as
their upper case. -/
def upperChar (c : Char) : Char :=
  if c.val = 0x131 then 'I' else if c.val = 0x17f then 'S' else c.toUpper

/-- `strings.ToUpper`, for such a text. -/
def toUpper (s : String) : String := String.ofList (s.toList.map upperChar)

/-- The folding of `strings.EqualFold`, for a text that is compared with an ASCII one: the Kelvin
sign and `ſ` fold to ASCII letters. -/
def foldChar (c : Char) : Char :=
  if c.val = 0x212a then 'k' else if c.val = 0x17f then 's' else c.toLower

/-- `strings.EqualFold`, with an ASCII text. -/
def equalFold (s ascii : String) : Bool := s.toList.map foldChar = ascii.toList.map foldChar

/-- `strings.HasPrefix`. -/
def hasStart (s start : String) : Bool := start.toList.isPrefixOf s.toList

/-- `strings.HasSuffix`. -/
def hasEnd (s ending : String) : Bool := ending.toList.isSuffixOf s.toList

/-- What is before and after the first place where `sep` is. -/
def cutAt (sep : List Char) : List Char → Option (List Char × List Char)
  | [] => none
  | c :: cs =>
    if sep.isPrefixOf (c :: cs) then some ([], (c :: cs).drop sep.length)
    else (cutAt sep cs).map fun (before, after) => (c :: before, after)

/-- `strings.SplitN` into two parts, with a separator that is not empty. -/
def splitTwo (s sep : String) : Option (String × String) :=
  (cutAt sep.toList s.toList).map fun (before, after) =>
    (String.ofList before, String.ofList after)

/-- `strings.Split`, at a character. -/
def split (s : String) (sep : Char) : List String := (s.toList.splitOn sep).map String.ofList

/-- `strings.Fields`. -/
def fields (s : String) : List String := (Machinery.fields isSpace s.toList).map String.ofList

/-- Trimming does not change the fields. -/
theorem fields_trimSpace (s : String) : fields (trimSpace s) = fields s := by
  obtain ⟨before, word, after, hs, hbefore, hword, hafter⟩ := exists_pad s.toList
  have htrim := trimSpace_pad hbefore hword hafter
  rw [← hs, String.ofList_toList] at htrim
  unfold fields
  rw [htrim, hs, String.toList_ofList, List.append_assoc,
    Machinery.fields_append_left hbefore, Machinery.fields_append_right hafter]

/-- A text without fields is empty when it is trimmed. -/
theorem trimSpace_eq_of_fields (s : String) (h : fields s = []) : trimSpace s = "" := by
  rw [fields, List.map_eq_nil_iff, Machinery.fields_eq_nil_iff] at h
  unfold trimSpace
  rw [List.dropWhile_eq_nil_iff.mpr h]
  rfl

/-- `strings.Contains`. -/
def contains (s sub : String) : Bool := s.toList.tails.any sub.toList.isPrefixOf

end GoText

end Beszel
