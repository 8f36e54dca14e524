import LiabilityProof.Polynomial.Basic
import LiabilityProof.Field.Domain

/-!
# The number-theoretic transform

`transform` takes `2 ^ k` coefficients to the values at `1, ω, ω², …`, in place. The coefficients
are laid out in the order of their reversed indices. Then `k` stages run over them, from blocks of
one entry to a single block: a stage joins neighbouring blocks in pairs, and for the `i`-th entries
`a` of the first block and `b` of the second it writes `a + w ^ i · b` and `a - w ^ i · b`, with
`w` the power of `ω` that goes round the joined block.

The second of these is a value of the polynomial when `ω ^ (n / 2) = -1`. For any other `ω` the
transform is what the two formulas say.

The entries are a vector, so that every read and write of the loops is one at an index that there
is.
-/

namespace LiabilityProof

namespace Transform

/-- Whether a list can be transformed: its length is zero or a power of two, and so has no binary
digit in common with its predecessor. -/
def isLength (n : Nat) : Bool := decide (n &&& (n - 1) = 0)

/-! ### Reversed indices -/

/-- The last `width` binary digits of a number, most significant first. -/
def binary : Nat → Nat → List Nat
  | 0, _ => []
  | width + 1, i => binary width (i / 2) ++ [i % 2]

/-- The number whose binary digits are those of `i` in reverse order. -/
def reversed (width i : Nat) : Nat := Text.ofDigits 2 (binary width i).reverse

theorem length_binary (width i : Nat) : (binary width i).length = width := by
  induction width generalizing i with
  | zero => rfl
  | succ width ih => rw [binary, List.length_append, ih, List.length_singleton]

/-- The last digit comes first. -/
theorem reversed_succ (width i : Nat) :
    reversed (width + 1) i = i % 2 * Nat.pow 2 width + reversed width (i / 2) := by
  rw [reversed, binary, List.reverse_append, List.reverse_singleton, List.singleton_append,
    Text.ofDigits_cons, List.length_reverse, length_binary]
  rfl

theorem reversed_lt (width i : Nat) : reversed width i < Nat.pow 2 width := by
  induction width generalizing i with
  | zero => exact Nat.zero_lt_one
  | succ width ih =>
    have hrest := ih (i / 2)
    have hpow : Nat.pow 2 (width + 1) = 2 * Nat.pow 2 width := Nat.pow_succ'
    rw [reversed_succ, hpow]
    rcases Nat.mod_two_eq_zero_or_one i with hdigit | hdigit <;> rw [hdigit] <;> omega

theorem reversed_lt_of_isLength {n i : Nat} (h : isLength n = true) (hi : i < n) :
    reversed n.log2 i < n := by
  obtain ⟨k, rfl⟩ : n.isPowerOfTwo :=
    (Nat.and_sub_one_eq_zero_iff_isPowerOfTwo (Nat.ne_zero_of_lt hi)).mp (of_decide_eq_true h)
  rw [Nat.log2_two_pow]
  exact reversed_lt k i

variable {n : Nat}

/-- The entries in the order of their reversed indices. -/
def bitReversed (h : isLength n = true) (v : Vector Scalar n) : Vector Scalar n :=
  .ofFn fun i =>
    have := reversed_lt_of_isLength h i.isLt
    v[reversed n.log2 i]

/-! ### Stages -/

/-- The entry at `i` and the one `half` further on become their sum and their difference, the
second turned by `w` before. -/
def butterfly (half i : Nat) (h : i + half < n) (w : Scalar) (v : Vector Scalar n) :
    Vector Scalar n :=
  let turned := w * v[i + half]
  let entry := v[i]
  (v.set i (entry + turned)).set (i + half) (entry - turned)

/-- `count` butterflies from `i` on, turned by `w`, `w·step`, `w·step²`, …. -/
def butterflies (half : Nat) (step : Scalar) :
    (count i : Nat) → i + half + count ≤ n → Scalar → Vector Scalar n → Vector Scalar n
  | 0, _, _, _, v => v
  | count + 1, i, h, w, v =>
    butterflies half step count (i + 1) (by omega) (w * step) (butterfly half i (by omega) w v)

/-- The butterflies of `count` blocks of `2 * half` entries from `start` on. -/
def blocks (half : Nat) (step : Scalar) :
    (count start : Nat) → start + count * (2 * half) ≤ n → Vector Scalar n → Vector Scalar n
  | 0, _, _, v => v
  | count + 1, start, h, v =>
    have hblocks : start + 2 * half + count * (2 * half) ≤ n := by
      rw [Nat.succ_mul] at h
      omega
    blocks half step count (start + 2 * half) hblocks
      (butterflies half step half start (by omega) 1 v)

/-- The stage that joins blocks of `half` entries. -/
def stage (ω : Scalar) (half : Nat) (v : Vector Scalar n) : Vector Scalar n :=
  blocks half (ω ^ (n / (2 * half))) (n / (2 * half)) 0
    (by rw [Nat.zero_add]; exact Nat.div_mul_le_self n (2 * half)) v

/-- `count` stages, the first of which joins blocks of `half` entries. -/
def stages (ω : Scalar) : (count half : Nat) → Vector Scalar n → Vector Scalar n
  | 0, _, v => v
  | count + 1, half, v => stages ω count (2 * half) (stage ω half v)

/-- The transform of as many coefficients as can be transformed. -/
def transform (h : isLength n = true) (ω : Scalar) (v : Vector Scalar n) : Vector Scalar n :=
  stages ω n.log2 1 (bitReversed h v)

/-! ### Values and coefficients -/

/-- Coefficients to values. -/
def forward (cs : List Scalar) (ω : Scalar) : Except Failure (List Scalar) :=
  if h : isLength cs.length = true then .ok (transform h ω ⟨cs.toArray, rfl⟩).toList
  else .error (.transformLength cs.length)

/-- Values to coefficients: the transform for the inverse root, divided by the length. -/
def backward (values : List Scalar) (ω : Scalar) : Except Failure (List Scalar) :=
  (forward values (1 / ω)).map fun cs =>
    cs.map (· * (1 / Scalar.encode values.length))

/-- The polynomial with the given values at `1, ω, ω², …`. -/
def interpolate (values : List Scalar) (ω : Scalar) : Except Failure Poly :=
  (backward values ω).map Poly.ofCoeffs

/-- The field elements that untrusted values are, where their number can be transformed. A wrong
number is noticed before a wrong value. -/
def valuesOfData (values : List Datum) (residue : Datum → Except Failure Scalar) :
    Except Failure (List Scalar) :=
  if isLength values.length then values.mapM residue
  else .error (.transformLength values.length)

end Transform

end LiabilityProof
