import Mathlib.Data.List.Induction
import Mathlib.Data.Nat.Digits.Defs
import LiabilityProof.Text.Hex

/-!
# Numbers as bytes

`Text.ofBigEndian` reads back what `Text.bigEndian` writes, up to the numbers that do not fit the
width, and all bytes of one width are written of some number. Bytes that do not start with a zero
are the digits of the number that they write, so bytes write one number exactly if they are equal
from the first byte on that is not zero (`ofBigEndian_eq_iff`).
-/

namespace LiabilityProof

namespace Text

@[simp]
theorem length_bigEndian (width n : Nat) : (bigEndian width n).length = width := by
  induction width generalizing n with
  | zero => rfl
  | succ width ih => rw [bigEndian, List.length_append, ih, List.length_singleton]

theorem ofBigEndian_append_singleton (bytes : List UInt8) (b : UInt8) :
    ofBigEndian (bytes ++ [b]) = ofBigEndian bytes * 256 + b.toNat := by
  rw [ofBigEndian, List.foldl_append]
  rfl

/-- What is read back is what has been written, reduced to the width. -/
theorem ofBigEndian_bigEndian (width n : Nat) :
    ofBigEndian (bigEndian width n) = n % 256 ^ width := by
  induction width generalizing n with
  | zero => rw [Nat.pow_zero, Nat.mod_one]; rfl
  | succ width ih =>
    have hsplit : n % 256 ^ (width + 1) = n % 256 + 256 * (n / 256 % 256 ^ width) := by
      rw [Nat.pow_succ', Nat.mod_mul]
    rw [bigEndian, ofBigEndian_append_singleton, ih, UInt8.toNat_ofNat', hsplit]
    omega

/-- Bytes are what is written of the number that they write, at their own width. -/
theorem bigEndian_ofBigEndian {bytes : List UInt8} {width : Nat} (h : bytes.length = width) :
    bigEndian width (ofBigEndian bytes) = bytes := by
  subst h
  induction bytes using List.reverseRecOn with
  | nil => rfl
  | append_singleton bytes b ih =>
    have hb : b.toNat < 256 := b.toNat_lt
    have hdiv : (ofBigEndian bytes * 256 + b.toNat) / 256 = ofBigEndian bytes := by omega
    have hmod : (ofBigEndian bytes * 256 + b.toNat) % 256 = b.toNat := by omega
    rw [List.length_append, List.length_singleton, bigEndian, ofBigEndian_append_singleton, hdiv,
      hmod, ih, UInt8.ofNat_toNat]

theorem ofBigEndian_replicate_zero (n : Nat) : ofBigEndian (List.replicate n 0) = 0 := by
  induction n with
  | zero => rfl
  | succ n ih => rw [List.replicate_succ', ofBigEndian_append_singleton, ih]; rfl

/-! ### Digits -/

/-- The digits that bytes are, least significant first. -/
def byteDigits (bytes : List UInt8) : List Nat := bytes.reverse.map UInt8.toNat

theorem ofDigits_byteDigits (bytes : List UInt8) :
    Nat.ofDigits 256 (byteDigits bytes) = ofBigEndian bytes := by
  induction bytes using List.reverseRecOn with
  | nil => rfl
  | append_singleton bytes b ih =>
    have hdigits : byteDigits (bytes ++ [b]) = b.toNat :: byteDigits bytes := by
      rw [byteDigits, List.reverse_concat, List.map_cons]
      rfl
    rw [hdigits, Nat.ofDigits_cons, ih, ofBigEndian_append_singleton]
    omega

theorem lt_of_mem_byteDigits {bytes : List UInt8} {d : Nat} (h : d ∈ byteDigits bytes) :
    d < 256 := by
  obtain ⟨b, -, rfl⟩ := List.mem_map.mp h
  exact b.toNat_lt

/-- Bytes write a number that fits their width. -/
theorem ofBigEndian_lt (bytes : List UInt8) : ofBigEndian bytes < 256 ^ bytes.length := by
  have hdigits : ∀ d ∈ byteDigits bytes, d < 256 := fun _ hd => lt_of_mem_byteDigits hd
  have hlt := Nat.ofDigits_lt_base_pow_length (by decide) hdigits
  rwa [ofDigits_byteDigits, byteDigits, List.length_map, List.length_reverse] at hlt

/-- The digits of what is written are the bytes, unless a zero stands first. -/
theorem digits_ofBigEndian {bytes : List UInt8} (h : bytes.head? ≠ some 0) :
    Nat.digits 256 (ofBigEndian bytes) = byteDigits bytes := by
  rw [← ofDigits_byteDigits]
  have hlt : ∀ d ∈ byteDigits bytes, d < 256 := fun _ hd => lt_of_mem_byteDigits hd
  refine Nat.digits_ofDigits 256 (by decide) _ hlt fun hne hlast => ?_
  cases bytes with
  | nil => exact hne rfl
  | cons b bytes =>
    have hb : b.toNat = 0 := by simpa [byteDigits] using hlast
    exact h (congrArg some (UInt8.toNat_inj.mp hb))

/-- Bytes that do not start with a zero are determined by the number that they write. -/
theorem eq_of_ofBigEndian_eq {bytes bytes' : List UInt8} (h : bytes.head? ≠ some 0)
    (h' : bytes'.head? ≠ some 0) (heq : ofBigEndian bytes = ofBigEndian bytes') :
    bytes = bytes' := by
  have hdigits : byteDigits bytes = byteDigits bytes' := by
    rw [← digits_ofBigEndian h, heq, digits_ofBigEndian h']
  exact List.reverse_inj.mp
    ((List.map_inj_right fun _ _ hb => UInt8.toNat_inj.mp hb).mp hdigits)

/-! ### Zeros in front -/

/-- The bytes from the first that is not zero on. -/
def significant (bytes : List UInt8) : List UInt8 := bytes.dropWhile (· = 0)

theorem head?_significant (bytes : List UInt8) : (significant bytes).head? ≠ some 0 := by
  intro h
  have hnot := List.head?_dropWhile_not (fun b : UInt8 => decide (b = 0)) bytes
  rw [← significant, h] at hnot
  exact absurd hnot (by simp)

/-- Zeros in front do not count. -/
theorem ofBigEndian_significant (bytes : List UInt8) :
    ofBigEndian (significant bytes) = ofBigEndian bytes := by
  induction bytes with
  | nil => rfl
  | cons b bytes ih =>
    rw [significant, List.dropWhile_cons]
    split
    next hb =>
      obtain rfl : b = 0 := of_decide_eq_true hb
      exact ih
    next => rfl

/-- Bytes write one number exactly if they are equal but for zeros in front. -/
theorem ofBigEndian_eq_iff {bytes bytes' : List UInt8} :
    ofBigEndian bytes = ofBigEndian bytes' ↔ significant bytes = significant bytes' := by
  rw [← ofBigEndian_significant bytes, ← ofBigEndian_significant bytes']
  exact ⟨eq_of_ofBigEndian_eq (head?_significant _) (head?_significant _),
    congrArg ofBigEndian⟩

theorem utf8_inj {s t : String} : utf8 s = utf8 t ↔ s = t := by
  rw [utf8, utf8, Array.toList_inj, ← ByteArray.ext_iff]
  exact String.toByteArray_inj

end Text

end LiabilityProof
