import Mathlib.Data.List.Dedup
import Mathlib.Tactic.SplitIfs

/-!
# Machinery/UrlQuery — the query of a URL

    pairs ──encode──▸ key=value&key=value ──parseQuery──▸ pairs

A query is a text of bytes, and what it says is a list of pairs, with any bytes in them.  `escape`
writes a byte that would be read as something else as `%` and two digits, and a space as `+`.
Reading what was written gives the values of every key in their order: `all_parseQuery_encode`.
-/

namespace Machinery

namespace UrlQuery

/-! ## Bytes -/

/-- A byte that stands for itself: a letter, a digit or one of `-_.~`. -/
def unreserved (b : UInt8) : Bool :=
  0x61 ≤ b && b ≤ 0x7a || 0x41 ≤ b && b ≤ 0x5a || 0x30 ≤ b && b ≤ 0x39 ||
    b = 0x2d || b = 0x5f || b = 0x2e || b = 0x7e

/-- `0123456789ABCDEF`. -/
def hexDigit (n : ℕ) : UInt8 := UInt8.ofNat (if n < 10 then 0x30 + n else 0x37 + n)

/-- A digit, in either case. -/
def unhex (b : UInt8) : Option ℕ :=
  if 0x30 ≤ b && b ≤ 0x39 then some (b.toNat - 0x30)
  else if 0x61 ≤ b && b ≤ 0x66 then some (b.toNat - 0x57)
  else if 0x41 ≤ b && b ≤ 0x46 then some (b.toNat - 0x37)
  else none

/-- A byte as it is written. -/
def escapeByte (b : UInt8) : List UInt8 :=
  if unreserved b then [b]
  else if b = 0x20 then [0x2b]
  else [0x25, hexDigit (b.toNat / 16), hexDigit (b.toNat % 16)]

/-- A text as it is written in a query. -/
def escape (s : List UInt8) : List UInt8 := s.flatMap escapeByte

/-- A text as it is read: there is none where `%` stands before something else than two digits. -/
def unescape : List UInt8 → Option (List UInt8)
  | [] => some []
  | 0x25 :: a :: b :: rest => do
    let hi ← unhex a
    let lo ← unhex b
    (UInt8.ofNat (hi * 16 + lo) :: ·) <$> unescape rest
  | 0x25 :: _ => none
  | 0x2b :: rest => (0x20 :: ·) <$> unescape rest
  | c :: rest => (c :: ·) <$> unescape rest

/-! ## Values -/

/-- **What a query says**: pairs of a key and a value, in the order they were added. -/
abbrev Values := List (List UInt8 × List UInt8)

namespace Values

/-- The values of a key. -/
def all (v : Values) (key : List UInt8) : List (List UInt8) := (v.filter (·.1 = key)).map (·.2)

/-- Whether there is a value. -/
def has (v : Values) (key : List UInt8) : Bool := v.any (·.1 = key)

/-- The first value, or nothing. -/
def get (v : Values) (key : List UInt8) : List UInt8 := (v.all key).head?.getD []

/-- A value behind those that the key has. -/
def add (v : Values) (key value : List UInt8) : Values := v ++ [(key, value)]

/-- The keys, sorted. -/
def keys (v : Values) : List (List UInt8) := (v.map (·.1)).dedup.mergeSort (· ≤ ·)

/-- The pairs in the order they are written. -/
def sorted (v : Values) : Values := v.keys.flatMap fun key => (v.all key).map (key, ·)

/-- **The values as a query.** -/
def encode (v : Values) : List UInt8 :=
  [0x26].intercalate (v.sorted.map fun p => escape p.1 ++ 0x3d :: escape p.2)

end Values

/-- What stands between two `&`. -/
def parsePair (part : List UInt8) : Option (List UInt8 × List UInt8) :=
  if 0x3b ∈ part ∨ part = [] then none
  else do
    let key := part.takeWhile (· ≠ 0x3d)
    let k ← unescape key
    let value ← unescape (part.drop (key.length + 1))
    return (k, value)

/-- **The values of a query**; what cannot be read is left out. -/
def parseQuery (query : List UInt8) : Values := (query.splitOn 0x26).filterMap parsePair

/-! ## What is written is read -/

theorem unhex_hexDigit : ∀ n < 16, unhex (hexDigit n) = some n := by decide

/-- What a text is read as does not depend on what is in front of it. -/
theorem unescape_cons {c : UInt8} (hpercent : c ≠ 0x25) (hplus : c ≠ 0x2b) (rest : List UInt8) :
    unescape (c :: rest) = (c :: ·) <$> unescape rest := by
  rw [unescape]
  · exact fun _ _ _ heq _ => absurd heq hpercent
  · exact fun heq => absurd heq hpercent
  · exact fun heq => absurd heq hplus

theorem unescape_percent {a b : UInt8} {hi lo : ℕ} (ha : unhex a = some hi)
    (hb : unhex b = some lo) (rest : List UInt8) :
    unescape (0x25 :: a :: b :: rest) = (UInt8.ofNat (hi * 16 + lo) :: ·) <$> unescape rest := by
  rw [unescape, ha, hb]
  rfl

/-- **A byte is read as it was.** -/
theorem unescape_escapeByte (b : UInt8) (rest : List UInt8) :
    unescape (escapeByte b ++ rest) = (b :: ·) <$> unescape rest := by
  unfold escapeByte
  split_ifs with hplain hspace
  · refine unescape_cons ?_ ?_ rest
    · rintro rfl
      exact absurd hplain (by decide)
    · rintro rfl
      exact absurd hplain (by decide)
  · rw [hspace]
    rfl
  · have hb : b.toNat < 256 := b.toNat_lt
    refine (unescape_percent (unhex_hexDigit _ (by omega)) (unhex_hexDigit _ (by omega))
      rest).trans ?_
    rw [Nat.div_add_mod' b.toNat 16, UInt8.ofNat_toNat]

/-- **A text is read as it was.** -/
theorem unescape_escape (s : List UInt8) : unescape (escape s) = some s := by
  induction s with
  | nil => rfl
  | cons b s ih =>
    rw [escape, List.flatMap_cons, unescape_escapeByte]
    exact congrArg _ ih

/-- What is between the pairs and in them. -/
def IsSeparator (b : UInt8) : Prop := b = 0x26 ∨ b = 0x3d ∨ b = 0x3b

theorem hexDigit_ne : ∀ n < 16, ¬ IsSeparator (hexDigit n) := by
  unfold IsSeparator
  decide

/-- **No separator is written in a text.** -/
theorem notMem_escape {sep : UInt8} (hsep : IsSeparator sep) (s : List UInt8) :
    sep ∉ escape s := by
  intro hmem
  obtain ⟨b, -, hb⟩ := List.mem_flatMap.mp hmem
  unfold escapeByte at hb
  have hbyte : b.toNat < 256 := b.toNat_lt
  split_ifs at hb with hplain
  · obtain rfl := List.mem_singleton.mp hb
    rcases hsep with rfl | rfl | rfl <;> exact absurd hplain (by decide)
  · obtain rfl := List.mem_singleton.mp hb
    rcases hsep with h | h | h <;> exact absurd h (by decide)
  · simp only [List.mem_cons, List.not_mem_nil, or_false] at hb
    rcases hb with rfl | rfl | rfl
    · rcases hsep with h | h | h <;> exact absurd h (by decide)
    · exact hexDigit_ne _ (by omega) hsep
    · exact hexDigit_ne _ (by omega) hsep

/-- **A pair is read as it was.** -/
theorem parsePair_pair (key value : List UInt8) :
    parsePair (escape key ++ 0x3d :: escape value) = some (key, value) := by
  have hkey : ∀ b ∈ escape key, decide (b ≠ 0x3d) = true := fun b hb =>
    decide_eq_true fun heq => notMem_escape (.inr (.inl rfl)) key (heq ▸ hb)
  have htake : (escape key ++ 0x3d :: escape value).takeWhile (· ≠ 0x3d) = escape key := by
    rw [List.takeWhile_append_of_pos hkey, List.takeWhile_cons_of_neg (by decide),
      List.append_nil]
  have hdrop : (escape key ++ 0x3d :: escape value).drop ((escape key).length + 1) =
      escape value := by
    rw [← List.drop_drop, List.drop_left]
    rfl
  have hsep : ¬(0x3b ∈ escape key ++ 0x3d :: escape value ∨
      escape key ++ 0x3d :: escape value = []) := by
    rintro (hmem | hnil)
    · rcases List.mem_append.mp hmem with h | h
      · exact notMem_escape (.inr (.inr rfl)) key h
      · rcases List.mem_cons.mp h with h | h
        · exact absurd h (by decide)
        · exact notMem_escape (.inr (.inr rfl)) value h
    · exact List.append_ne_nil_of_right_ne_nil _ (List.cons_ne_nil _ _) hnil
  rw [parsePair, if_neg hsep]
  dsimp only
  rw [htake, hdrop, unescape_escape, unescape_escape]
  rfl

/-- What is written is read, pair by pair. -/
theorem parseQuery_encode (v : Values) : parseQuery v.encode = v.sorted := by
  rw [parseQuery, Values.encode]
  by_cases hnil : v.sorted = []
  · rw [hnil]
    rfl
  · rw [List.splitOn_intercalate _ ?_ (by simpa using hnil), List.filterMap_map]
    · refine (List.filterMap_congr fun p _ => ?_).trans List.filterMap_some
      exact parsePair_pair p.1 p.2
    · intro part hpart
      obtain ⟨p, -, rfl⟩ := List.mem_map.mp hpart
      rw [List.mem_append, List.mem_cons]
      rintro (h | h | h)
      · exact notMem_escape (.inl rfl) _ h
      · exact absurd h (by decide)
      · exact notMem_escape (.inl rfl) _ h

namespace Values

theorem all_append (v w : Values) (key : List UInt8) :
    all (v ++ w) key = v.all key ++ w.all key := by
  unfold all
  rw [List.filter_append, List.map_append]

theorem mem_keys {v : Values} {key : List UInt8} : key ∈ v.keys ↔ v.all key ≠ [] := by
  simp [keys, all]

theorem nodup_keys (v : Values) : v.keys.Nodup :=
  (List.mergeSort_perm _ _).nodup_iff.mpr (List.nodup_dedup _)

/-- The values of a key, where each of some keys is written once. -/
theorem all_flatMap (v : Values) {keys : List (List UInt8)} (hkeys : keys.Nodup)
    (k : List UInt8) :
    all (keys.flatMap fun key => (v.all key).map (key, ·)) k =
      if k ∈ keys then v.all k else [] := by
  induction keys with
  | nil => rfl
  | cons key keys ih =>
    obtain ⟨hkey, hkeys⟩ := List.nodup_cons.mp hkeys
    rw [List.flatMap_cons, all_append, ih hkeys]
    by_cases h : key = k
    · subst h
      rw [if_neg hkey, if_pos List.mem_cons_self, List.append_nil, all, all, List.filter_map,
        List.map_map]
      simp [Function.comp_def]
    · have hnone : all ((v.all key).map (key, ·)) k = [] := by simp [all, h]
      rw [hnone, List.nil_append]
      simp [Ne.symm h]

end Values

/-- **Every key has the values that it had**, in their order. -/
theorem all_parseQuery_encode (v : Values) (key : List UInt8) :
    (parseQuery v.encode).all key = v.all key := by
  rw [parseQuery_encode, Values.sorted, Values.all_flatMap v v.nodup_keys]
  split_ifs with h
  · rfl
  · exact (not_not.mp fun hne => h (Values.mem_keys.mpr hne)).symm

end UrlQuery

end Machinery
