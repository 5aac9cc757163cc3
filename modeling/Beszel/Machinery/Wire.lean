import Mathlib

/-!
# Machinery/Wire — a typed value, its encoding, and decoding into a destination

    value ──enc──▸ item ──dec──▸ destination

`Ty` describes the types a tagged-struct encoder walks over, `Ty.Val` their values.  `enc` writes
a value as an `Item`, leaving out what the struct tags let it leave out; `dec` reads an item into a
destination that already holds something: a field that is not in the item keeps its content, a map
keeps its other entries, a slice its memory.  `merge` is the two together, without the item.

`dec_eq_some` says that decoding what was encoded succeeds exactly on readable text and then gives
`merge`; `same_merge_iff` says when the result is the value that was sent, and
`faithful_zero_iff` what that comes down to for a zero destination.
-/

namespace Machinery

namespace Wire

/-! ## Strings, items and struct tags -/

/-- A Go string: bytes that are UTF-8, or bytes that are not. -/
abbrev GoString := String ⊕ { b : ByteArray // b.validateUTF8 = false }

/-- A map key on the wire. -/
inductive Key
  | int (n : ℕ)
  | text (s : GoString)
  deriving DecidableEq

/-- The data model of the wire. -/
inductive Item
  | null
  | bool (b : Bool)
  | int (z : ℤ)
  | float (q : ℚ)
  | bytes (b : ByteArray)
  | text (s : GoString)
  | array (items : List Item)
  | map (entries : List (Key × Item))

/-- A text key has to be UTF-8. -/
def Key.readable : Key → Bool
  | .int _ => true
  | .text s => s.isLeft

mutual

/-- **Readable** — every text of the item is UTF-8. -/
def Item.readable : Item → Bool
  | .null | .bool _ | .int _ | .float _ | .bytes _ => true
  | .text s => s.isLeft
  | .array items => Item.readableAll items
  | .map entries => Item.readableEntries entries

/-- Every item of the list is readable. -/
def Item.readableAll : List Item → Bool
  | [] => true
  | item :: items => item.readable && Item.readableAll items

/-- Every key and item of the list is readable. -/
def Item.readableEntries : List (Key × Item) → Bool
  | [] => true
  | (key, item) :: entries => key.readable && item.readable && Item.readableEntries entries

end

/-- The item of a key. -/
def Item.lookup (key : Key) (entries : List (Key × Item)) : Option Item :=
  (entries.find? (·.1 = key)).map (·.2)

/-- What a struct tag says about a field. -/
structure Rule where
  key : Key
  omitempty : Bool
  omitzero : Bool

namespace Rule

/-- The tag with the option `omitempty`. -/
def orEmpty (r : Rule) : Rule := { r with omitempty := true }

/-- The tag with the option `omitzero`. -/
def orZero (r : Rule) : Rule := { r with omitzero := true }

end Rule

/-- One of several encodings: its struct tags, and what its encoder writes for bytes that are not
UTF-8 — the bytes themselves, or a replacement. -/
structure Format (ι : Type) where
  index : ι
  replace : Option ({ b : ByteArray // b.validateUTF8 = false } → String)

/-- The text the encoder writes for a string. -/
def Format.text {ι : Type} (fmt : Format ι) : GoString → GoString
  | .inl s => .inl s
  | .inr b => match fmt.replace with
    | none => .inr b
    | some f => .inl (f b)

namespace Format

variable {ι : Type} (fmt : Format ι)

/-- Replacing a second time changes nothing. -/
theorem text_text (s : GoString) : fmt.text (fmt.text s) = fmt.text s := by
  rcases s with s | b
  · rfl
  · cases h : fmt.replace <;> simp [Format.text, h]

variable {fmt} in
theorem text_eq (h : fmt.replace = none) (s : GoString) : fmt.text s = s := by
  rcases s with s | b
  · rfl
  · simp [Format.text, h]

end Format

/-! ## Types and values -/

/-- The types that are encoded; a struct has a tag for each field and encoding. -/
inductive Ty (ι : Type) : Type
  | bool
  | uint (w : ℕ)
  | int
  | float
  | string
  | any
  | raw
  | slice (t : Ty ι)
  | array (n : ℕ) (t : Ty ι)
  | map (t : Ty ι)
  | ptr (t : Ty ι)
  | struct (n : ℕ) (tag : Fin n → ι → Option Rule) (ty : Fin n → Ty ι)

variable {ι : Type}

namespace Ty

/-- The values of a type.  A slice has its elements and the memory behind them, up to its
capacity; slices, maps and pointers can be nil. -/
@[reducible] def Val : Ty ι → Type
  | .bool => Bool
  | .uint w => BitVec w
  | .int => BitVec 64
  | .float => ℚ
  | .string => GoString
  | .any => Item
  | .raw => Option Item
  | .slice t => Option (List t.Val × List t.Val)
  | .array n t => Fin n → t.Val
  | .map t => Option (AList fun _ : GoString => t.Val)
  | .ptr t => Option t.Val
  | .struct n _ ty => (i : Fin n) → (ty i).Val

/-- The zero value. -/
def zero : (t : Ty ι) → t.Val
  | .bool => false
  | .uint _ => 0
  | .int => 0
  | .float => 0
  | .string => .inl ""
  | .any => .null
  | .raw => none
  | .slice _ => none
  | .array _ t => fun _ => t.zero
  | .map _ => none
  | .ptr _ => none
  | .struct _ _ ty => fun i => (ty i).zero

/-- `omitzero`: is the value the zero value? -/
def isZero : (t : Ty ι) → t.Val → Bool
  | .bool, v => !v
  | .uint _, v => v = 0
  | .int, v => v = 0
  | .float, v => v = 0
  | .string, v => v = .inl ""
  | .any, v => (v matches .null)
  | .raw, v => v.isNone
  | .slice _, v => v.isNone
  | .array _ t, v => decide (∀ i, t.isZero (v i))
  | .map _, v => v.isNone
  | .ptr _, v => v.isNone
  | .struct _ _ ty, v => decide (∀ i, (ty i).isZero (v i))

/-- `omitempty`: is the value false, 0, nil, or of length 0? -/
def isEmpty : (t : Ty ι) → t.Val → Bool
  | .bool, v => !v
  | .uint _, v => v = 0
  | .int, v => v = 0
  | .float, v => v = 0
  | .string, v => v = .inl ""
  | .any, v => (v matches .null)
  | .raw, v => v.isNone
  | .slice _, v => v.all (·.1.isEmpty)
  | .array n _, _ => n = 0
  | .map _, v => v.all (·.entries.isEmpty)
  | .ptr _, v => v.isNone
  | .struct _ _ _, _ => false

end Ty

/-- The encoder leaves the field out. -/
def Rule.omits (r : Rule) (t : Ty ι) (v : t.Val) : Bool :=
  (r.omitempty && t.isEmpty v) || (r.omitzero && t.isZero v)

/-! ## Encoding -/

/-- **The encoder.** -/
def Ty.enc (fmt : Format ι) : (t : Ty ι) → t.Val → Item
  | .bool, v => .bool v
  | .uint _, v => .int v.toNat
  | .int, v => .int v.toInt
  | .float, v => .float v
  | .string, v => .text (fmt.text v)
  | .any, v => v
  | .raw, v => v.getD .null
  | .slice _, none => .null
  | .slice t, some v => .array (v.1.map (t.enc fmt))
  | .array _ t, v => .array (List.ofFn fun i => t.enc fmt (v i))
  | .map _, none => .null
  | .map t, some m => .map (m.entries.map fun e => (.text (fmt.text e.1), t.enc fmt e.2))
  | .ptr _, none => .null
  | .ptr t, some v => t.enc fmt v
  | .struct n tag ty, v => .map ((List.finRange n).filterMap fun i =>
      match tag i fmt.index with
      | none => none
      | some r => if r.omits (ty i) (v i) then none else some (r.key, (ty i).enc fmt (v i)))

/-! ## Decoding -/

/-- A family of results that are all there. -/
def allSome {n : ℕ} {β : Fin n → Type} (g : (i : Fin n) → Option (β i)) :
    Option ((i : Fin n) → β i) :=
  if h : ∀ i, (g i).isSome then some fun i => (g i).get (h i) else none

/-- Two lists combined position by position by a function that can fail. -/
def zipM {α β γ : Type} (f : α → β → Option γ) : List α → List β → Option (List γ)
  | a :: as, b :: bs => do return (← f a b) :: (← zipM f as bs)
  | _, _ => some []

/-- Entries set one after the other. -/
def insertAll {α : Type} (m : AList fun _ : GoString => α) (l : List (GoString × α)) :
    AList fun _ : GoString => α :=
  l.foldl (fun m e => m.insert e.1 e.2) m

variable {α β γ δ : Type}

theorem allSome_eq_some {n : ℕ} {β : Fin n → Type} {g : (i : Fin n) → Option (β i)}
    {v : (i : Fin n) → β i} : allSome g = some v ↔ ∀ i, g i = some (v i) := by
  unfold allSome
  constructor
  · intro h i
    split_ifs at h with hg
    rw [← Option.some.inj h]
    exact (Option.some_get (hg i)).symm
  · intro h
    have hg : ∀ i, (g i).isSome := fun i => by simp [h i]
    rw [dif_pos hg, Option.some.injEq]
    funext i
    exact Option.get_of_eq_some (hg i) (h i)

/-- Where the function succeeds on everything, it is `zipWith`. -/
theorem zipM_map {f : α → β → Option γ} {g : δ → β} {h : α → δ → γ} {as : List α} {ds : List δ}
    (hf : ∀ a, ∀ d ∈ ds, f a (g d) = some (h a d)) :
    zipM f as (ds.map g) = some (List.zipWith h as ds) := by
  induction ds generalizing as with
  | nil => cases as <;> rfl
  | cons d ds ih =>
    cases as with
    | nil => rfl
    | cons a as =>
      simp [zipM, hf a d (by simp), ih fun a d hd => hf a d (by simp [hd])]

theorem zipM_eq_some {f : α → β → Option γ} {as : List α} {bs : List β} {cs : List γ}
    (h : zipM f as bs = some cs) (hl : bs.length ≤ as.length) :
    ∀ b ∈ bs, ∃ a c, f a b = some c := by
  induction bs generalizing as cs with
  | nil => simp
  | cons b bs ih =>
    cases as with
    | nil => simp at hl
    | cons a as =>
      simp only [zipM, Option.bind_eq_bind, Option.bind_eq_some_iff, Option.pure_def,
        Option.some.injEq] at h
      obtain ⟨c, hc, cs', hcs, -⟩ := h
      simp only [List.mem_cons, forall_eq_or_imp]
      exact ⟨⟨a, c, hc⟩, ih hcs (by simpa using hl)⟩

theorem mapM_map {f : β → Option γ} {g : α → β} {h : α → γ} {l : List α}
    (hf : ∀ a ∈ l, f (g a) = some (h a)) : (l.map g).mapM f = some (l.map h) := by
  induction l with
  | nil => rfl
  | cons a l ih =>
    simp [hf a (by simp), ih fun a ha => hf a (by simp [ha])]

theorem mapM_eq_some {f : α → Option β} {l : List α} {r : List β} (h : l.mapM f = some r) :
    ∀ a ∈ l, ∃ b, f a = some b := by
  induction l generalizing r with
  | nil => simp
  | cons a l ih =>
    simp only [List.mapM_cons, Option.bind_eq_bind, Option.bind_eq_some_iff] at h
    obtain ⟨b, hb, r', hr, -⟩ := h
    simp only [List.mem_cons, forall_eq_or_imp]
    exact ⟨⟨b, hb⟩, ih hr⟩

/-- A relation between combined elements and the second ones, read off the first ones. -/
theorem forall₂_zipWith {R : γ → β → Prop} {S : α → β → Prop} {f : α → β → γ} {as : List α}
    {bs : List β} (hl : as.length = bs.length)
    (h : ∀ a ∈ as, ∀ b, R (f a b) b ↔ S a b) :
    List.Forall₂ R (List.zipWith f as bs) bs ↔ List.Forall₂ S as bs := by
  induction as generalizing bs with
  | nil =>
    obtain rfl : bs = [] := by simpa using hl.symm
    simp
  | cons a as ih =>
    cases bs with
    | nil => simp at hl
    | cons b bs =>
      simp only [List.zipWith_cons_cons, List.forall₂_cons]
      rw [h a (by simp) b, ih (by simpa using hl) fun a ha => h a (by simp [ha])]

theorem lookup_insertAll_of_notMem {m : AList fun _ : GoString => α} {l : List (GoString × α)}
    {k : GoString} (hk : ∀ e ∈ l, e.1 ≠ k) : (insertAll m l).lookup k = m.lookup k := by
  induction l generalizing m with
  | nil => rfl
  | cons e l ih =>
    rw [insertAll, List.foldl_cons, ← insertAll, ih fun e he => hk e (by simp [he])]
    exact AList.lookup_insert_ne (hk e (by simp)).symm

/-- Among entries with distinct keys, none is set over. -/
theorem lookup_insertAll_of_mem {m : AList fun _ : GoString => α} {l : List (GoString × α)}
    (hl : (l.map Prod.fst).Nodup) {k : GoString} {v : α} (hk : (k, v) ∈ l) :
    (insertAll m l).lookup k = some v := by
  induction l generalizing m with
  | nil => simp at hk
  | cons e l ih =>
    rw [insertAll, List.foldl_cons, ← insertAll]
    rw [List.map_cons, List.nodup_cons] at hl
    obtain rfl | hk := List.mem_cons.mp hk
    · rw [lookup_insertAll_of_notMem, AList.lookup_insert]
      intro e he hek
      exact hl.1 (List.mem_map.mpr ⟨e, he, hek⟩)
    · exact ih hl.2 hk

section Relations

variable {R : α → α → Prop}

theorem rel_symm (h : ∀ a b, R a b → R b a) {x y : Option α} (hxy : Option.Rel R x y) :
    Option.Rel R y x := by
  cases hxy with
  | none => exact .none
  | some hab => exact .some (h _ _ hab)

theorem rel_trans (h : ∀ a b c, R a b → R b c → R a c) {x y z : Option α}
    (hxy : Option.Rel R x y) (hyz : Option.Rel R y z) : Option.Rel R x z := by
  cases hxy with
  | none => exact hyz
  | some hab =>
    cases hyz with
    | some hbc => exact .some (h _ _ _ hab hbc)

theorem forall₂_trans (h : ∀ a b c, R a b → R b c → R a c) {x y z : List α}
    (hxy : List.Forall₂ R x y) (hyz : List.Forall₂ R y z) : List.Forall₂ R x z := by
  induction hxy generalizing z with
  | nil => exact hyz
  | cons hab _ ih =>
    cases hyz with
    | cons hbc hyz => exact .cons (h _ _ _ hab hbc) (ih hyz)

end Relations

namespace Ty

/-- The memory that `count` elements are decoded into, and what is left behind them: the slice's
own if its capacity is enough, new zero values if not. -/
def memory (t : Ty ι) (count : ℕ) : Option (List t.Val × List t.Val) → List t.Val × List t.Val
  | some (elems, spare) =>
    if 0 < count ∧ count ≤ (elems ++ spare).length then (elems ++ spare).splitAt count
    else (List.replicate count t.zero, [])
  | none => (List.replicate count t.zero, [])

/-- **The decoder**: the item read into a destination with a previous content. -/
def dec (index : ι) : (t : Ty ι) → t.Val → Item → Option t.Val
  | .bool, _, .bool b => some b
  | .uint w, _, .int z => if 0 ≤ z ∧ z < 2 ^ w then some (BitVec.ofInt w z) else none
  | .int, _, .int z => if -2 ^ 63 ≤ z ∧ z < 2 ^ 63 then some (BitVec.ofInt 64 z) else none
  | .float, _, .float q => some q
  | .string, _, .text s => if s.isLeft then some s else none
  | .any, _, item => if item.readable then some item else none
  | .raw, _, item => some (some item)
  | .slice _, _, .null => some none
  | .slice t, d, .array items =>
    (zipM (t.dec index) (t.memory items.length d).1 items).map fun elems =>
      some (elems, (t.memory items.length d).2)
  | .array _ t, d, .array items =>
    allSome fun i => match items[i.1]? with
      | none => some t.zero
      | some item => t.dec index (d i) item
  | .map _, _, .null => some none
  | .map t, d, .map entries =>
    (entries.mapM fun (e : Key × Item) => match e.1 with
      | .text s => if s.isLeft then (t.dec index t.zero e.2).map (Prod.mk s) else none
      | .int _ => none).map fun l => some (insertAll (d.getD ∅) l)
  | .ptr _, _, .null => some none
  | .ptr t, d, item => (t.dec index (d.getD t.zero) item).map some
  | .struct _ tag ty, d, .map entries =>
    allSome fun i => match tag i index with
      | none => some (d i)
      | some r => match Item.lookup r.key entries with
        | none => some (d i)
        | some item => (ty i).dec index (d i) item
  | _, d, .null => some d
  | _, _, _ => none

section Struct

variable {index : ι} {n : ℕ} {tag : Fin n → ι → Option Rule} {ty : Fin n → Ty ι}
  {d v : (i : Fin n) → (ty i).Val} {entries : List (Key × Item)} {i : Fin n} {r : Rule}

/-- A field whose key is not there keeps its content. -/
theorem dec_struct_absent (h : (struct n tag ty).dec index d (.map entries) = some v)
    (hr : tag i index = some r) (hlookup : Item.lookup r.key entries = none) : v i = d i := by
  have hi := allSome_eq_some.mp h i
  simp only [hr, hlookup] at hi
  exact (Option.some.inj hi).symm

/-- A field whose key is there is decoded. -/
theorem dec_struct_present (h : (struct n tag ty).dec index d (.map entries) = some v)
    (hr : tag i index = some r) {item : Item} (hlookup : Item.lookup r.key entries = some item) :
    (ty i).dec index (d i) item = some (v i) := by
  have hi := allSome_eq_some.mp h i
  simp only [hr, hlookup] at hi
  exact hi

end Struct

/-! ## Encoding and decoding together -/

/-- No value of the type is written as null. -/
def solid : Ty ι → Bool
  | .any | .raw | .slice _ | .map _ | .ptr _ => false
  | _ => true

/-- **Well-formed** — the tags of a struct have distinct keys, and what a pointer points at is
never written as null. -/
def Wf (index : ι) : Ty ι → Prop
  | .slice t | .array _ t | .map t => t.Wf index
  | .ptr t => t.solid ∧ t.Wf index
  | .struct _ tag ty =>
    (∀ i j r s, tag i index = some r → tag j index = some s → r.key = s.key → i = j) ∧
      ∀ i, (ty i).Wf index
  | _ => True

variable (fmt : Format ι)

/-- The encoder writes the field. -/
def sent {n : ℕ} (tag : Fin n → ι → Option Rule) (ty : Fin n → Ty ι)
    (v : (i : Fin n) → (ty i).Val) (i : Fin n) : Bool :=
  (tag i fmt.index).any fun r => !r.omits (ty i) (v i)

/-- The text that is written for the value is UTF-8. -/
def Readable : (t : Ty ι) → t.Val → Prop
  | .string, v => (fmt.text v).isLeft
  | .any, v => v.readable
  | .slice t, v => ∀ w ∈ v, ∀ a ∈ w.1, t.Readable a
  | .array _ t, v => ∀ i, t.Readable (v i)
  | .map t, v => ∀ m ∈ v, ∀ e ∈ AList.entries m, (fmt.text e.1).isLeft ∧ t.Readable e.2
  | .ptr t, v => ∀ w ∈ v, t.Readable w
  | .struct _ tag ty, v => ∀ i, (tag i fmt.index).isSome → (ty i).Readable (v i)
  | _, _ => True

/-- **What a destination holds afterwards** when a value was encoded and decoded into it. -/
def merge : (t : Ty ι) → t.Val → t.Val → t.Val
  | .bool, _, v => v
  | .uint _, _, v => v
  | .int, _, v => v
  | .float, _, v => v
  | .string, _, v => fmt.text v
  | .any, _, v => v
  | .raw, _, v => some (v.getD .null)
  | .slice _, _, none => none
  | .slice t, d, some v =>
    some (List.zipWith t.merge (t.memory v.1.length d).1 v.1, (t.memory v.1.length d).2)
  | .array _ t, d, v => fun i => t.merge (d i) (v i)
  | .map _, _, none => none
  | .map t, d, some m =>
    some (insertAll (d.getD ∅) (m.entries.map fun e => (fmt.text e.1, t.merge t.zero e.2)))
  | .ptr _, _, none => none
  | .ptr t, d, some v => some (t.merge (d.getD t.zero) v)
  | .struct _ tag ty, d, v => fun i =>
    if sent fmt tag ty v i then (ty i).merge (d i) (v i) else d i


variable {fmt}

/-- There is memory for every element. -/
theorem length_memory (t : Ty ι) (count : ℕ) (d : Option (List t.Val × List t.Val)) :
    (t.memory count d).1.length = count := by
  unfold memory
  split
  · split_ifs with h
    · rw [List.splitAt_eq, List.length_take, min_eq_left h.2]
    · simp
  · simp

theorem enc_ne_null {t : Ty ι} (h : t.solid) (v : t.Val) : t.enc fmt v ≠ .null := by
  cases t <;> simp_all [solid, enc]

/-- **A sent field is found under its key**, an unsent one is not. -/
theorem lookup_enc {n : ℕ} {tag : Fin n → ι → Option Rule} {ty : Fin n → Ty ι}
    (hk : ∀ i j r s, tag i fmt.index = some r → tag j fmt.index = some s →
      r.key = s.key → i = j)
    (v : (i : Fin n) → (ty i).Val) {i : Fin n} {r : Rule} (hr : tag i fmt.index = some r) :
    Item.lookup r.key ((List.finRange n).filterMap fun i =>
      match tag i fmt.index with
      | none => none
      | some r => if r.omits (ty i) (v i) then none else some (r.key, (ty i).enc fmt (v i)))
      = if sent fmt tag ty v i then some ((ty i).enc fmt (v i)) else none := by
  rw [Item.lookup, List.find?_filterMap]
  cases hf : (List.finRange n).find? _ with
  | none =>
    have hi := List.find?_eq_none.mp hf i (List.mem_finRange i)
    rw [if_neg]
    · rfl
    · intro hs
      rw [sent, hr, Option.any_some, Bool.not_eq_true'] at hs
      simp [hr, hs] at hi
  | some j =>
    have hj := List.find?_some hf
    cases hs : tag j fmt.index with
    | none => simp [hs] at hj
    | some s =>
      have hom : s.omits (ty j) (v j) = false := by
        by_contra hom
        rw [Bool.not_eq_false] at hom
        simp [hs, hom] at hj
      have hij : j = i := hk j i s r hs hr (by simpa [hs, hom] using hj)
      subst hij
      obtain rfl : s = r := Option.some.inj (hs.symm.trans hr)
      simp [sent, hr, hom]

/-- Decoding what was encoded gives the merged value, if the text is readable. -/
theorem dec_enc {t : Ty ι} (hwf : t.Wf fmt.index) (d v : t.Val) (h : t.Readable fmt v) :
    t.dec fmt.index d (t.enc fmt v) = some (t.merge fmt d v) := by
  induction t with
  | bool => rfl
  | uint w =>
    have hv : (0 : ℤ) ≤ v.toNat ∧ (v.toNat : ℤ) < 2 ^ w := ⟨by omega, by exact_mod_cast v.isLt⟩
    simp [enc, dec, merge, hv.2]
  | int =>
    have hv : -2 ^ 63 ≤ v.toInt ∧ v.toInt < 2 ^ 63 := ⟨v.le_toInt, v.toInt_lt⟩
    simp only [enc, dec, merge]
    rw [if_pos hv, BitVec.ofInt_toInt]
  | float => rfl
  | string => simpa [enc, dec, merge, Readable] using h
  | any => exact if_pos h
  | raw => rfl
  | slice t ih =>
    cases v with
    | none => rfl
    | some v =>
      simp only [enc, dec, merge, List.length_map]
      rw [zipM_map fun a b hb => ih hwf a b (h v rfl b hb)]
      rfl
  | array n t ih =>
    simp only [enc, dec, merge]
    rw [allSome_eq_some]
    intro i
    simp [ih hwf (d i) (v i) (h i)]
  | map t ih =>
    cases v with
    | none => rfl
    | some m =>
      simp only [enc, dec, merge]
      rw [mapM_map (h := fun e => (fmt.text e.1, t.merge fmt t.zero e.2))]
      · rfl
      · intro e he
        obtain ⟨hs, he⟩ := h m rfl e he
        simp [hs, ih hwf t.zero e.2 he]
  | ptr t ih =>
    cases v with
    | none => rfl
    | some v =>
      simp only [enc, merge]
      rw [dec]
      · rw [ih hwf.2 _ v (h v rfl)]
        rfl
      · exact enc_ne_null hwf.1 v
  | struct n tag ty ih =>
    simp only [enc, dec, merge]
    rw [allSome_eq_some]
    intro i
    cases hr : tag i fmt.index with
    | none => simp [sent, hr]
    | some r =>
      simp only
      rw [lookup_enc hwf.1 v hr]
      split_ifs with hs
      · exact ih i (hwf.2 i) (d i) (v i) (h i (by simp [hr]))
      · rfl


theorem readable_of_isZero {t : Ty ι} {v : t.Val} (h : t.isZero v) : t.Readable fmt v := by
  induction t with
  | bool | uint _ | int | float | raw => trivial
  | string =>
    obtain rfl : v = .inl "" := by simpa [isZero] using h
    rfl
  | any =>
    cases v with
    | null => rfl
    | _ => simp [isZero] at h
  | slice _ _ | map _ _ | ptr _ _ =>
    obtain rfl : v = none := by simpa [isZero] using h
    simp [Readable]
  | array n t ih => exact fun i => ih (of_decide_eq_true h i)
  | struct n tag ty ih => exact fun i _ => ih i (of_decide_eq_true h i)

theorem readable_of_isEmpty {t : Ty ι} {v : t.Val} (h : t.isEmpty v) : t.Readable fmt v := by
  cases t with
  | bool | uint _ | int | float | string | any | raw | ptr _ => exact readable_of_isZero h
  | slice t =>
    rintro w rfl a ha
    have hw : w.1 = [] := by simpa [isEmpty] using h
    simp [hw] at ha
  | array n t =>
    obtain rfl : n = 0 := by simpa [isEmpty] using h
    exact fun i => i.elim0
  | map t =>
    rintro m rfl e he
    have hm : m.entries = [] := by simpa [isEmpty] using h
    simp [hm] at he
  | struct n tag ty => simp [isEmpty] at h

/-- What is left out has no text. -/
theorem readable_of_omits {r : Rule} {t : Ty ι} {v : t.Val} (h : r.omits t v) :
    t.Readable fmt v := by
  rw [Rule.omits, Bool.or_eq_true, Bool.and_eq_true, Bool.and_eq_true] at h
  obtain ⟨-, h⟩ | ⟨-, h⟩ := h
  · exact readable_of_isEmpty h
  · exact readable_of_isZero h

/-- **Only readable text is decoded.** -/
theorem readable_of_dec {t : Ty ι} (hwf : t.Wf fmt.index) {d v r : t.Val}
    (h : t.dec fmt.index d (t.enc fmt v) = some r) : t.Readable fmt v := by
  induction t with
  | bool | uint _ | int | float | raw => trivial
  | string =>
    simp only [enc, dec] at h
    split_ifs at h with hs
    exact hs
  | any =>
    by_contra hs
    rw [enc, dec, if_neg (c := Item.readable v = true) hs] at h
    cases h
  | slice t ih =>
    rintro v' rfl a ha
    simp only [enc, dec, List.length_map, Option.map_eq_some_iff] at h
    obtain ⟨cs, hcs, -⟩ := h
    have hlen := t.length_memory v'.1.length d
    obtain ⟨a', c, hc⟩ := zipM_eq_some hcs (by simp [hlen]) _ (List.mem_map_of_mem ha)
    exact ih hwf hc
  | array n t ih =>
    simp only [enc, dec] at h
    intro i
    have hi := allSome_eq_some.mp h i
    simp at hi
    exact ih hwf hi
  | map t ih =>
    rintro m rfl e he
    simp only [enc, dec, Option.map_eq_some_iff] at h
    obtain ⟨l, hl, -⟩ := h
    obtain ⟨b, hb⟩ := mapM_eq_some hl _ (List.mem_map_of_mem he)
    simp only at hb
    split_ifs at hb with hs
    obtain ⟨r', hr', -⟩ := Option.map_eq_some_iff.mp hb
    exact ⟨hs, ih hwf hr'⟩
  | ptr t ih =>
    rintro v rfl
    simp only [enc] at h
    rw [dec] at h
    · obtain ⟨r', hr', -⟩ := Option.map_eq_some_iff.mp h
      exact ih hwf.2 hr'
    · exact enc_ne_null hwf.1 v
  | struct n tag ty ih =>
    intro i hi
    obtain ⟨rule, hr⟩ := Option.isSome_iff_exists.mp hi
    cases ho : rule.omits (ty i) (v i) with
    | true => exact readable_of_omits ho
    | false =>
      simp only [enc] at h
      have hlookup := lookup_enc hwf.1 v hr
      rw [if_pos (by simp [sent, hr, ho])] at hlookup
      exact ih i (hwf.2 i) (dec_struct_present h hr hlookup)


variable (fmt) in
/-- **Decoding what was encoded** succeeds exactly on readable text, and gives the merged value. -/
theorem dec_eq_some {t : Ty ι} (hwf : t.Wf fmt.index) {d v w : t.Val} :
    t.dec fmt.index d (t.enc fmt v) = some w ↔ t.Readable fmt v ∧ w = t.merge fmt d v := by
  constructor
  · intro h
    have hr := readable_of_dec hwf h
    exact ⟨hr, Option.some.inj (h.symm.trans (dec_enc hwf d v hr))⟩
  · rintro ⟨hr, rfl⟩
    exact dec_enc hwf d v hr

/-! ## When the result is the value that was sent -/

/-- The elements of a slice. -/
def elements {t : Ty ι} (v : Option (List t.Val × List t.Val)) : List t.Val :=
  (v.map Prod.fst).getD []

/-- **The same content** — nil slices and maps are empty ones, the order of a map and the memory
behind a slice do not count. -/
def Same : (t : Ty ι) → t.Val → t.Val → Prop
  | .bool, a, b => a = b
  | .uint _, a, b => a = b
  | .int, a, b => a = b
  | .float, a, b => a = b
  | .string, a, b => a = b
  | .any, a, b => a = b
  | .raw, a, b => a.getD .null = b.getD .null
  | .slice t, a, b => List.Forall₂ t.Same (elements a) (elements b)
  | .array _ t, a, b => ∀ i, t.Same (a i) (b i)
  | .map t, a, b => ∀ k, Option.Rel t.Same ((a.getD ∅).lookup k) ((b.getD ∅).lookup k)
  | .ptr t, a, b => Option.Rel t.Same a b
  | .struct _ _ ty, a, b => ∀ i, (ty i).Same (a i) (b i)

theorem same_symm {t : Ty ι} {a b : t.Val} (h : t.Same a b) : t.Same b a := by
  induction t with
  | bool | uint _ | int | float | string | any | raw => exact Eq.symm h
  | slice t ih => exact (List.Forall₂.imp (fun _ _ hab => ih hab) h).flip
  | array n t ih => exact fun i => ih (h i)
  | map t ih => exact fun k => rel_symm (fun _ _ => ih) (h k)
  | ptr t ih => exact rel_symm (fun _ _ => ih) h
  | struct n tag ty ih => exact fun i => ih i (h i)

theorem same_trans {t : Ty ι} {a b c : t.Val} (hab : t.Same a b) (hbc : t.Same b c) :
    t.Same a c := by
  induction t with
  | bool | uint _ | int | float | string | any | raw => exact Eq.trans hab hbc
  | slice t ih => exact forall₂_trans (R := t.Same) (fun _ _ _ => ih) hab hbc
  | array n t ih => exact fun i => ih (hab i) (hbc i)
  | map t ih => exact fun k => rel_trans (R := t.Same) (fun _ _ _ => ih) (hab k) (hbc k)
  | ptr t ih => exact rel_trans (R := t.Same) (fun _ _ _ => ih) hab hbc
  | struct n tag ty ih => exact fun i => ih i (hab i) (hbc i)

variable (fmt) in
/-- **Faithful** — where the encoding of the value leaves something out, the previous content of
the destination agrees with the value already. -/
def Faithful : (t : Ty ι) → t.Val → t.Val → Prop
  | .string, _, v => fmt.text v = v
  | .slice t, d, v => ∀ w ∈ v, List.Forall₂ t.Faithful (t.memory w.1.length d).1 w.1
  | .array _ t, d, v => ∀ i, t.Faithful (d i) (v i)
  | .map t, d, v => ∀ m ∈ v, (∀ k ∈ d.getD ∅, k ∈ m) ∧
      ∀ e ∈ AList.entries m, fmt.text e.1 = e.1 ∧ t.Faithful t.zero e.2
  | .ptr t, d, v => ∀ w ∈ v, t.Faithful (d.getD t.zero) w
  | .struct _ tag ty, d, v => ∀ i,
      if sent fmt tag ty v i then (ty i).Faithful (d i) (v i) else (ty i).Same (d i) (v i)
  | _, _, _ => True

/-- A decoded map has the entries that were sent, and the other ones it had before. -/
theorem lookup_merge_map {t : Ty ι} {d : Option (AList fun _ : GoString => t.Val)}
    {m : AList fun _ : GoString => t.Val} (hm : ∀ e ∈ m.entries, fmt.text e.1 = e.1)
    (k : GoString) :
    (insertAll (d.getD ∅)
        (m.entries.map fun e => (fmt.text e.1, t.merge fmt t.zero e.2))).lookup k
      = match m.lookup k with
        | some v => some (t.merge fmt t.zero v)
        | none => (d.getD ∅).lookup k := by
  cases hk : m.lookup k with
  | some v =>
    have hmem : (⟨k, v⟩ : Sigma fun _ : GoString => t.Val) ∈ m.entries := AList.mem_lookup_iff.mp hk
    refine lookup_insertAll_of_mem ?_ (List.mem_map.mpr ⟨⟨k, v⟩, hmem, by rw [hm _ hmem]⟩)
    have hkeys : (m.entries.map fun e => (fmt.text e.1, t.merge fmt t.zero e.2)).map Prod.fst
        = m.entries.keys := by
      rw [List.map_map]
      exact List.map_congr_left fun e he => hm e he
    rw [hkeys]
    exact m.nodupKeys
  | none =>
    refine lookup_insertAll_of_notMem fun e he hek => ?_
    obtain ⟨e', he', rfl⟩ := List.mem_map.mp he
    rw [hm e' he'] at hek
    exact AList.lookup_eq_none.mp hk (AList.mem_keys.mpr (List.mem_map.mpr ⟨e', he', hek⟩))

/-- **When the destination holds the value that was sent**: exactly if the transfer is faithful.
The destination is zero, or the encoder replaces no text. -/
theorem same_merge_iff {t : Ty ι} {d v : t.Val} (hd : fmt.replace = none ∨ d = t.zero) :
    t.Same (t.merge fmt d v) v ↔ t.Faithful fmt d v := by
  induction t with
  | bool | uint _ | int | float | any => simp [Same, merge, Faithful]
  | raw => simp [Same, merge, Faithful]
  | string => simp [Same, merge, Faithful]
  | slice t ih =>
    cases v with
    | none => simp [Same, merge, Faithful, elements]
    | some v =>
      simp only [Same, merge, Faithful, elements, Option.map_some, Option.getD_some,
        Option.mem_some_iff, forall_eq']
      refine forall₂_zipWith (t.length_memory _ d) fun a ha b => ih ?_
      refine hd.imp_right fun hd => ?_
      subst hd
      exact List.eq_of_mem_replicate ha
  | array n t ih =>
    refine forall_congr' fun i => ih ?_
    exact hd.imp_right fun hd => by rw [hd]; rfl
  | map t ih =>
    cases v with
    | none => simp [Same, merge, Faithful]
    | some m =>
      simp only [Same, merge, Faithful, Option.getD_some, Option.mem_some_iff, forall_eq']
      constructor
      · intro h
        have hm : ∀ e ∈ m.entries, fmt.text e.1 = e.1 := by
          refine fun e he => hd.elim (fun hr => Format.text_eq hr e.1) fun hd => ?_
          by_contra hne
          -- no key of the result is changed by the encoder, so this one is lost
          have hk := h e.1
          rw [lookup_insertAll_of_notMem, AList.mem_lookup_iff.mpr he, hd] at hk
          · cases hk
          · intro e' he' hek
            obtain ⟨e'', -, rfl⟩ := List.mem_map.mp he'
            exact hne (hek ▸ fmt.text_text e''.1)
        refine ⟨fun k hk => ?_, fun e he => ⟨hm e he, ?_⟩⟩
        · by_contra hkm
          have hrel := h k
          obtain ⟨v, hv⟩ := Option.isSome_iff_exists.mp (AList.lookup_isSome.mpr hk)
          rw [lookup_merge_map hm, AList.lookup_eq_none.mpr hkm] at hrel
          simp only [hv] at hrel
          cases hrel
        · have hrel := h e.1
          rw [lookup_merge_map hm, AList.mem_lookup_iff.mpr he] at hrel
          simp only [Option.rel_some_some] at hrel
          exact (ih (.inr rfl)).mp hrel
      · rintro ⟨hdm, hm⟩ k
        rw [lookup_merge_map fun e he => (hm e he).1]
        cases hk : m.lookup k with
        | some v =>
          have hmem := AList.mem_lookup_iff.mp hk
          exact .some ((ih (.inr rfl)).mpr (hm _ hmem).2)
        | none =>
          have hdk : k ∉ d.getD ∅ := fun hdk => AList.lookup_eq_none.mp hk (hdm k hdk)
          simp only
          rw [AList.lookup_eq_none.mpr hdk]
          exact .none
  | ptr t ih =>
    cases v with
    | none => simp [Same, merge, Faithful]
    | some v =>
      simp only [Same, merge, Faithful, Option.rel_some_some, Option.mem_some_iff, forall_eq']
      refine ih (hd.imp_right fun hd => ?_)
      rw [hd]
      rfl
  | struct n tag ty ih =>
    refine forall_congr' fun i => ?_
    simp only [merge]
    split_ifs with hs
    · refine ih i ?_
      exact hd.imp_right fun hd => by rw [hd]; rfl
    · rfl


/-! ## Into a zero destination -/

variable (fmt) in
/-- **Carried** — the value has no content the encoding has no place for: no text that the encoder
replaces, and nothing in a field without a tag. -/
def Carried : (t : Ty ι) → t.Val → Prop
  | .string, v => fmt.text v = v
  | .slice t, v => ∀ w ∈ v, ∀ a ∈ w.1, t.Carried a
  | .array _ t, v => ∀ i, t.Carried (v i)
  | .map t, v => ∀ m ∈ v, ∀ e ∈ AList.entries m, fmt.text e.1 = e.1 ∧ t.Carried e.2
  | .ptr t, v => ∀ w ∈ v, t.Carried w
  | .struct _ tag ty, v => ∀ i,
      if (tag i fmt.index).isSome then (ty i).Carried (v i) else (ty i).Same (ty i).zero (v i)
  | _, _ => True

/-- A zero value is nothing more than the zero value. -/
theorem same_zero_of_isZero {t : Ty ι} {v : t.Val} (h : t.isZero v) : t.Same t.zero v := by
  induction t with
  | bool | uint _ | int | float | string => simp_all [isZero, Same, zero]
  | any =>
    cases v with
    | null => rfl
    | _ => simp [isZero] at h
  | raw | slice _ _ | map _ _ =>
    obtain rfl : v = none := by simpa [isZero] using h
    simp [Same, zero, elements]
  | ptr _ _ =>
    obtain rfl : v = none := by simpa [isZero] using h
    exact .none
  | array n t ih => exact fun i => ih (of_decide_eq_true h i)
  | struct n tag ty ih => exact fun i => ih i (of_decide_eq_true h i)

theorem carried_of_isZero {t : Ty ι} {v : t.Val} (h : t.isZero v) : t.Carried fmt v := by
  induction t with
  | bool | uint _ | int | float | any | raw => trivial
  | string =>
    obtain rfl : v = .inl "" := by simpa [isZero] using h
    rfl
  | slice _ _ | map _ _ | ptr _ _ =>
    obtain rfl : v = none := by simpa [isZero] using h
    simp [Carried]
  | array n t ih => exact fun i => ih (of_decide_eq_true h i)
  | struct n tag ty ih =>
    intro i
    have hi := of_decide_eq_true h i
    split_ifs
    · exact ih i hi
    · exact same_zero_of_isZero hi

/-- An empty value is the zero value, up to nil. -/
theorem blank_of_isEmpty {t : Ty ι} {v : t.Val} (h : t.isEmpty v) :
    t.Same t.zero v ∧ t.Carried fmt v := by
  cases t with
  | bool | uint _ | int | float | string | any | raw | ptr _ =>
    exact ⟨same_zero_of_isZero h, carried_of_isZero h⟩
  | slice t =>
    cases v with
    | none => exact ⟨.nil, by simp [Carried]⟩
    | some v =>
      have hv : v.1 = [] := by simpa [isEmpty] using h
      simp [Same, Carried, zero, elements, hv]
  | array n t =>
    obtain rfl : n = 0 := by simpa [isEmpty] using h
    exact ⟨fun i => i.elim0, fun i => i.elim0⟩
  | map t =>
    cases v with
    | none => simp [Same, Carried, zero]
    | some m =>
      have hm : m = ∅ := by
        apply AList.ext
        simpa [isEmpty] using h
      simp [Same, Carried, zero, hm]
  | struct n tag ty => simp [isEmpty] at h

variable (fmt) in
/-- What is left out is blank. -/
theorem blank_of_omits {r : Rule} {t : Ty ι} {v : t.Val} (h : r.omits t v) :
    t.Same t.zero v ∧ t.Carried fmt v := by
  rw [Rule.omits, Bool.or_eq_true, Bool.and_eq_true, Bool.and_eq_true] at h
  obtain ⟨-, h⟩ | ⟨-, h⟩ := h
  · exact blank_of_isEmpty h
  · exact ⟨same_zero_of_isZero h, carried_of_isZero h⟩

/-- **Into a zero destination** every value the encoding has a place for is transferred
faithfully. -/
theorem faithful_zero_iff {t : Ty ι} {v : t.Val} : t.Faithful fmt t.zero v ↔ t.Carried fmt v := by
  induction t with
  | bool | uint _ | int | float | string | any | raw => rfl
  | slice t ih =>
    refine forall₂_congr fun w _ => ?_
    rw [show t.memory w.1.length (Ty.slice t).zero
      = (List.replicate w.1.length t.zero, []) from rfl]
    induction w.1 with
    | nil => simp
    | cons a l hl =>
      simp only [List.length_cons, List.replicate_succ, List.forall₂_cons, List.mem_cons,
        forall_eq_or_imp] at hl ⊢
      rw [ih, hl]
  | array n t ih => exact forall_congr' fun i => ih
  | map t ih =>
    refine forall₂_congr fun m _ => ?_
    simp [zero, ih]
  | ptr t ih => exact forall₂_congr fun w _ => ih
  | struct n tag ty ih =>
    refine forall_congr' fun i => ?_
    cases hr : tag i fmt.index with
    | none => simp [sent, hr, zero]
    | some r =>
      cases ho : r.omits (ty i) (v i) with
      | false =>
        rw [if_pos (by simp [sent, hr, ho]), if_pos Option.isSome_some]
        exact ih i
      | true =>
        obtain ⟨hz, hc⟩ := blank_of_omits fmt ho
        rw [if_neg (by simp [sent, hr, ho]), if_pos Option.isSome_some]
        exact iff_of_true hz hc

end Ty

/-! ## Structs as lists of fields -/

/-- A struct from the list of its fields. -/
def Ty.record (fields : List ((ι → Option Rule) × Ty ι)) : Ty ι :=
  .struct fields.length (fun i => (fields.get i).1) (fun i => (fields.get i).2)

/-- A record is well-formed if its keys are distinct and its fields are well-formed. -/
theorem Ty.wf_record {index : ι} {fields : List ((ι → Option Rule) × Ty ι)}
    (hk : (fields.filterMap fun f => (f.1 index).map Rule.key).Nodup)
    (hf : ∀ f ∈ fields, f.2.Wf index) : (Ty.record fields).Wf index := by
  refine ⟨fun i j r s hr hs hrs => ?_, fun i => hf _ (List.get_mem _ _)⟩
  rw [List.Nodup, List.pairwise_filterMap, List.pairwise_iff_get] at hk
  by_contra hij
  obtain hlt | hlt := lt_or_gt_of_ne hij
  · exact hk i j hlt _ (congrArg _ hr) _ (congrArg _ hs) hrs
  · exact hk j i hlt _ (congrArg _ hs) _ (congrArg _ hr) hrs.symm

end Wire

end Machinery
