import Mathlib.Tactic.Ring
import LiabilityProof.Polynomial.Transform
import LiabilityProof.Proofs.Field.Ring

/-!
# What a stage does to the entries

A butterfly writes two entries and reads no others. The butterflies of one block write different
entries, and so do those of different blocks; therefore every butterfly of a stage reads what stood
there before the stage, and the entries after it are those of `getElem_stage`.
-/

namespace LiabilityProof

open scoped Residue

namespace Transform

variable {n half i count start : Nat} {w step : Scalar} {v : Vector Scalar n}

/-! ### One butterfly -/

theorem getElem_butterfly (hhalf : 0 < half) (hi : i < n) (h : i + half < n) :
    (butterfly half i h w v)[i] = v[i] + w * v[i + half] := by
  rw [butterfly, Vector.getElem_set_ne _ _ (by omega), Vector.getElem_set_self]

theorem getElem_butterfly_add (hi : i < n) (h : i + half < n) :
    (butterfly half i h w v)[i + half] = v[i] - w * v[i + half] := by
  rw [butterfly, Vector.getElem_set_self]

theorem getElem_butterfly_of_ne (h : i + half < n) {j : Nat} (hj : j < n) (hne : j ≠ i)
    (hne' : j ≠ i + half) : (butterfly half i h w v)[j] = v[j] := by
  rw [butterfly, Vector.getElem_set_ne _ _ (Ne.symm hne'), Vector.getElem_set_ne _ _ (Ne.symm hne)]

/-! ### The butterflies of a block -/

theorem getElem_butterflies_of_ne (h : i + half + count ≤ n) {j : Nat} (hj : j < n)
    (hne : ∀ m < count, j ≠ i + m ∧ j ≠ i + m + half) :
    (butterflies half step count i h w v)[j] = v[j] := by
  induction count generalizing i w v with
  | zero => rw [butterflies]
  | succ count ih =>
    have hfirst : j ≠ i ∧ j ≠ i + half := hne 0 count.succ_pos
    have hrest : ∀ m < count, j ≠ i + 1 + m ∧ j ≠ i + 1 + m + half := by
      intro m hm
      have := hne (m + 1) (by omega)
      omega
    rw [butterflies, ih (by omega) hrest, getElem_butterfly_of_ne (by omega) hj hfirst.1 hfirst.2]

/-- The butterflies of a block take both entries of a pair from what stood there before. The second
entry of the `m`-th pair is turned `m` times. -/
theorem getElem_butterflies (h : i + half + count ≤ n) (hcount : count ≤ half) {m : Nat}
    (hm : m < count) :
    (butterflies half step count i h w v)[i + m] =
        v[i + m] + w * step ^ m * v[i + m + half] ∧
      (butterflies half step count i h w v)[i + m + half] =
        v[i + m] - w * step ^ m * v[i + m + half] := by
  induction count generalizing i w v m with
  | zero => omega
  | succ count ih =>
    rw [butterflies]
    cases m with
    | zero =>
      -- the butterflies to come do not write the first pair
      have hne : ∀ m < count, i ≠ i + 1 + m ∧ i ≠ i + 1 + m + half := by omega
      have hne' : ∀ m < count, i + half ≠ i + 1 + m ∧ i + half ≠ i + 1 + m + half := by omega
      simp only [Nat.add_zero, pow_zero, mul_one]
      rw [getElem_butterflies_of_ne (by omega) (by omega) hne,
        getElem_butterflies_of_ne (by omega) (by omega) hne',
        getElem_butterfly (by omega) (by omega), getElem_butterfly_add (by omega)]
      exact ⟨rfl, rfl⟩
    | succ m =>
      -- and the first one does not write the pairs to come
      have hpair := ih (i := i + 1) (w := w * step) (v := butterfly half i (by omega) w v)
        (by omega) (by omega) (m := m) (by omega)
      have hindex : i + 1 + m = i + (m + 1) := by omega
      have hpower : w * step * step ^ m = w * step ^ (m + 1) := by ring
      simp only [hindex, hpower] at hpair
      rwa [getElem_butterfly_of_ne (by omega) (by omega) (by omega) (by omega),
        getElem_butterfly_of_ne (by omega) (by omega) (by omega) (by omega)] at hpair

/-! ### The blocks of a stage -/

theorem getElem_blocks_of_lt (h : start + count * (2 * half) ≤ n) {j : Nat} (hj : j < n)
    (hlt : j < start) : (blocks half step count start h v)[j] = v[j] := by
  induction count generalizing start v with
  | zero => rw [blocks]
  | succ count ih =>
    rw [Nat.succ_mul] at h
    rw [blocks, ih (by omega) (by omega), getElem_butterflies_of_ne (by omega) hj (by omega)]

theorem getElem_blocks (h : start + count * (2 * half) ≤ n) {b m j : Nat} (hb : b < count)
    (hm : m < half) (hj : j = start + b * (2 * half) + m) (hn : j + half < n) :
    (blocks half step count start h v)[j] = v[j] + step ^ m * v[j + half] ∧
      (blocks half step count start h v)[j + half] = v[j] - step ^ m * v[j + half] := by
  induction count generalizing start v b with
  | zero => omega
  | succ count ih =>
    have hsplit := h
    rw [Nat.succ_mul] at hsplit
    have hfirst : start + half + half ≤ n := by omega
    have hrest : start + 2 * half + count * (2 * half) ≤ n := by omega
    rw [blocks]
    cases b with
    | zero =>
      -- the blocks to come do not write the first one
      obtain rfl : j = start + m := by omega
      rw [getElem_blocks_of_lt hrest (by omega) (by omega),
        getElem_blocks_of_lt hrest (by omega) (by omega),
        (getElem_butterflies hfirst le_rfl hm).1, (getElem_butterflies hfirst le_rfl hm).2, one_mul]
      exact ⟨rfl, rfl⟩
    | succ b =>
      rw [Nat.succ_mul] at hj
      have hpair := ih (v := butterflies half step half start hfirst 1 v) hrest (b := b) (by omega)
        (by omega)
      rwa [getElem_butterflies_of_ne (by omega) (by omega) (by omega),
        getElem_butterflies_of_ne (by omega) (by omega) (by omega)] at hpair

/-- A stage joins the `m`-th entries of two neighbouring blocks to those of one block. -/
theorem getElem_stage {ω : Scalar} {b m j : Nat} (hb : b < n / (2 * half)) (hm : m < half)
    (hj : j = b * (2 * half) + m) (hn : j + half < n) :
    (stage ω half v)[j] = v[j] + (ω ^ (n / (2 * half))) ^ m * v[j + half] ∧
      (stage ω half v)[j + half] = v[j] - (ω ^ (n / (2 * half))) ^ m * v[j + half] :=
  getElem_blocks _ hb hm (by omega) hn

end Transform

end LiabilityProof
