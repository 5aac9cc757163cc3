import Beszel.Machinery.Wire

/-!
# Machinery/TextCut — texts that are cut at a byte

    before ++ after ──cut between two characters──▸ after
    before ++ after ──cut inside a character──▸ bytes that are not UTF-8

Slices and concatenations of strings go by their bytes.  A part of a text is a text exactly if it
was cut between two characters, and it then is that part; a text in front of bytes makes a text of
them exactly if they are one.
-/

namespace Machinery

namespace TextCut

open Wire (GoString)

/-! ## Bytes -/

/-- The string with these bytes. -/
def ofBytes (b : ByteArray) : GoString :=
  if h : b.validateUTF8 = true then .inl (.ofByteArray b (ByteArray.validateUTF8_eq_true_iff.mp h))
  else .inr ⟨b, Bool.eq_false_iff.mpr h⟩

/-- The bytes of a string. -/
def bytes : GoString → ByteArray
  | .inl s => s.toByteArray
  | .inr b => b.1

/-- `s[:n]`. -/
def take (s : String) (n : ℕ) : GoString := ofBytes (s.toByteArray.extract 0 n)

/-- `s[n:]`. -/
def drop (s : String) (n : ℕ) : GoString := ofBytes (s.toByteArray.extract n s.utf8ByteSize)

/-- `s + t`. -/
def append (s t : GoString) : GoString := ofBytes (bytes s ++ bytes t)

theorem ofBytes_eq_inl {b : ByteArray} {s : String} : ofBytes b = .inl s ↔ b = s.toByteArray := by
  unfold ofBytes
  split_ifs with h
  · rw [Sum.inl.injEq]
    exact ⟨fun hs => hs ▸ rfl, fun hb => String.toByteArray_inj.mp hb⟩
  · refine iff_of_false (fun hs => nomatch hs) fun hb => h ?_
    rw [hb]
    exact ByteArray.validateUTF8_eq_true_iff.mpr s.isValidUTF8

theorem bytes_eq_toByteArray {t : GoString} {s : String} :
    bytes t = s.toByteArray ↔ t = .inl s := by
  cases t with
  | inl t => rw [bytes, String.toByteArray_inj, Sum.inl.injEq]
  | inr b =>
    refine iff_of_false (fun hb => ?_) fun hs => nomatch hs
    have hvalid := ByteArray.validateUTF8_eq_true_iff.mpr s.isValidUTF8
    rw [← hb] at hvalid
    exact Bool.false_ne_true (b.2.symm.trans hvalid)

/-! ## Cuts -/

/-- **The start of a text** is a text exactly if it ends where a character does. -/
theorem take_eq_inl {s t : String} {n : ℕ} (hn : n ≤ s.utf8ByteSize) :
    take s n = .inl t ↔ ∃ after, s = t ++ after ∧ t.utf8ByteSize = n := by
  rw [take, ofBytes_eq_inl]
  constructor
  · intro hbytes
    have hvalid : String.Pos.Raw.IsValid s ⟨n⟩ :=
      String.Pos.Raw.isValid_iff_isValidUTF8_extract_zero.mpr ⟨hn, hbytes ▸ t.isValidUTF8⟩
    obtain ⟨before, after, hbefore, hs⟩ := hvalid.exists
    have ht : t = String.ofList before :=
      String.toByteArray_inj.mp (hbytes.symm.trans hbefore.symm)
    refine ⟨String.ofList after, ?_, ?_⟩
    · rw [ht, ← String.ofList_append, hs]
    · rw [← String.size_toByteArray, ← hbytes, ByteArray.size_extract, String.size_toByteArray]
      omega
  · rintro ⟨after, rfl, rfl⟩
    rw [String.toByteArray_append]
    exact ByteArray.extract_append_eq_left rfl

/-- **The end of a text** is a text exactly if it begins where a character does. -/
theorem drop_eq_inl {s t : String} {n : ℕ} (hn : n ≤ s.utf8ByteSize) :
    drop s n = .inl t ↔ ∃ before, s = before ++ t ∧ before.utf8ByteSize = n := by
  rw [drop, ofBytes_eq_inl]
  constructor
  · intro hbytes
    have hvalid : String.Pos.Raw.IsValid s ⟨n⟩ :=
      String.Pos.Raw.isValid_iff_isValidUTF8_extract_utf8ByteSize.mpr
        ⟨hn, hbytes ▸ t.isValidUTF8⟩
    obtain ⟨before, after, hbefore, rfl⟩ := hvalid.exists
    have hsize : (String.ofList before).utf8ByteSize = n := by
      rw [← String.size_toByteArray, String.toByteArray_ofList, hbefore, ByteArray.size_extract,
        String.size_toByteArray]
      exact Nat.min_eq_left hn
    refine ⟨String.ofList before, ?_, hsize⟩
    rw [String.ofList_append, String.append_right_inj, ← String.toByteArray_inj, ← hbytes,
      String.ofList_append, String.toByteArray_append, String.utf8ByteSize_append]
    exact (ByteArray.extract_append_eq_right hsize.symm
      (by rw [String.size_toByteArray, String.size_toByteArray])).symm
  · rintro ⟨before, rfl, rfl⟩
    rw [String.toByteArray_append, String.utf8ByteSize_append]
    exact ByteArray.extract_append_eq_right rfl rfl

/-- **A text in front** of bytes. -/
theorem append_inl_eq_inl {p t : String} {x : GoString} :
    append (.inl p) x = .inl t ↔ ∃ s, x = .inl s ∧ t = p ++ s := by
  rw [append, ofBytes_eq_inl]
  constructor
  · intro hbytes
    obtain ⟨before, rfl⟩ := p.exists_eq_ofList
    obtain ⟨whole, rfl⟩ := t.exists_eq_ofList
    rw [bytes, String.toByteArray_ofList, String.toByteArray_ofList] at hbytes
    obtain ⟨rest, rfl⟩ := List.isPrefix_of_utf8Encode_append_eq_utf8Encode _ hbytes
    rw [List.utf8Encode_append, ByteArray.append_right_inj, ← String.toByteArray_ofList,
      bytes_eq_toByteArray] at hbytes
    exact ⟨String.ofList rest, hbytes, String.ofList_append⟩
  · rintro ⟨s, rfl, rfl⟩
    exact String.toByteArray_append.symm

end TextCut

end Machinery
