import Mathlib.Data.List.Basic
import Mathlib.Data.Nat.Notation

/-!
# Machinery/Fnv — the 32-bit FNV-1a hash, and hexadecimal numerals

    hash ──⊕ byte──▸ ──× prime──▸ hash' ──▸ ⋯

A byte is mixed into the hash by an exclusive or and a product with an odd number, both of which can
be undone: two hashes that meet had met before a byte they share, and two different bytes part them.
-/

namespace Machinery

namespace Fnv

/-! ## The hash -/

/-- The hash of no bytes. -/
def offset32 : UInt32 := 2166136261

/-- The factor. -/
def prime32 : UInt32 := 16777619

/-- A byte is mixed in. -/
def mix (hash : UInt32) (c : UInt8) : UInt32 := (hash ^^^ c.toUInt32) * prime32

/-- Bytes are mixed in, from the first to the last. -/
def write (hash : UInt32) (data : List UInt8) : UInt32 := data.foldl mix hash

/-- **The hash of some bytes.** -/
def sum32 (data : List UInt8) : UInt32 := write offset32 data

variable {h h' : UInt32}

theorem write_append (h : UInt32) (data data' : List UInt8) :
    write h (data ++ data') = write (write h data) data' := List.foldl_append

/-- The factor is odd, so it can be undone. -/
theorem mul_prime32_inj (heq : h * prime32 = h' * prime32) : h = h' := by
  have hinverse : prime32 * 899433627 = 1 := by decide
  calc h = h * prime32 * 899433627 := by rw [UInt32.mul_assoc, hinverse, UInt32.mul_one]
    _ = h' * prime32 * 899433627 := by rw [heq]
    _ = h' := by rw [UInt32.mul_assoc, hinverse, UInt32.mul_one]

/-- Two different bytes part a hash. -/
theorem mix_inj_right {c c' : UInt8} (heq : mix h c = mix h c') : c = c' :=
  UInt8.toUInt32_inj.mp ((UInt32.xor_right_inj h).mp (mul_prime32_inj heq))

/-- **Hashes that meet after the same bytes had met before them.** -/
theorem write_inj_left {data : List UInt8} (heq : write h data = write h' data) : h = h' := by
  induction data generalizing h h' with
  | nil => exact heq
  | cons c data ih =>
    exact (UInt32.xor_left_inj c.toUInt32).mp (mul_prime32_inj (ih heq))

/-! ## Hexadecimal numerals -/

/-- A number in base 16. -/
def hex (n : ℕ) : String := String.ofList (Nat.toDigits 16 n)

theorem digitChar_inj : ∀ a < 16, ∀ b < 16, Nat.digitChar a = Nat.digitChar b → a = b := by
  decide

/-- The last digit and the digits before it give the number. -/
theorem toDigits_inj {n m : ℕ} (heq : Nat.toDigits 16 n = Nat.toDigits 16 m) : n = m := by
  induction n using Nat.strongRecOn generalizing m with
  | _ n ih =>
    rw [Nat.toDigits_eq_if (by decide : 1 < 16), Nat.toDigits_eq_if (by decide : 1 < 16)
      (n := m)] at heq
    have hlast := Nat.mod_lt n (by decide : 16 > 0)
    have hlast' := Nat.mod_lt m (by decide : 16 > 0)
    split_ifs at heq with hn hm hm
    · exact digitChar_inj n hn m hm (List.singleton_inj.mp heq)
    · exact absurd (List.append_eq_singleton_iff.mp heq.symm) (by simp)
    · exact absurd (List.append_eq_singleton_iff.mp heq) (by simp)
    · obtain ⟨hinit, hdigit⟩ := List.append_inj' heq rfl
      have hdiv := ih (n / 16) (by omega) hinit
      have hmod := digitChar_inj _ hlast _ hlast' (List.singleton_inj.mp hdigit)
      omega

/-- **A number is known by its numeral.** -/
theorem hex_inj {n m : ℕ} (heq : hex n = hex m) : n = m :=
  toDigits_inj (String.ofList_injective heq)

end Fnv

end Machinery
