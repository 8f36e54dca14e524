import Mathlib.Algebra.Field.GeomSum
import Mathlib.RingTheory.RootsOfUnity.PrimitiveRoots
import Mathlib.Tactic.Ring
import LiabilityProof.Field.Domain
import LiabilityProof.Proofs.Field.Primality

/-!
# The roots of the domains

A root `ω` turns half way round after `2 ^ k / 2` steps when `ω ^ (2 ^ k / 2) = -1`
(`HalfTurn k ω`). Then its first `2 ^ k` powers are different, and their sums cancel
(`HalfTurn.sum_pow`). The roots that `Scalar.rootOfUnity` gives for the orders `2 ^ k` are of
this kind for every `k ≤ 28`, because the generator's power with exponent `(p - 1) / 2` is `-1`.
-/

namespace LiabilityProof

open scoped Residue

/-- Half of `2 ^ k` steps lead from one to minus one. A root of order one takes no half turn. -/
def HalfTurn (k : Nat) (ω : Scalar) : Prop := ∀ m, k = m + 1 → ω ^ 2 ^ m = -1

theorem Scalar.neg_one_ne_one : (-1 : Scalar) ≠ 1 := by decide

namespace HalfTurn

variable {k : Nat} {ω : Scalar}

theorem pow_half {m : Nat} (h : HalfTurn (m + 1) ω) : ω ^ 2 ^ m = -1 := h m rfl

/-- The inverse turns the other way. -/
protected theorem inv (h : HalfTurn k ω) : HalfTurn k ω⁻¹ := by
  intro m hm
  rw [inv_pow, h m hm, inv_neg, inv_one]

theorem isPrimitiveRoot {m : Nat} (h : HalfTurn (m + 1) ω) : IsPrimitiveRoot ω (2 ^ (m + 1)) := by
  have hone : ω ^ 2 ^ (m + 1) = 1 := by
    rw [pow_succ, pow_mul, h.pow_half, neg_one_sq]
  have hne : ¬ω ^ 2 ^ m = 1 := by
    rw [h.pow_half]
    exact Scalar.neg_one_ne_one
  rw [← orderOf_eq_prime_pow hne hone]
  exact IsPrimitiveRoot.orderOf ω

/-- The first `2 ^ k` powers are different. -/
theorem pow_inj (h : HalfTurn k ω) {i j : Nat} (hi : i < 2 ^ k) (hj : j < 2 ^ k)
    (heq : ω ^ i = ω ^ j) : i = j := by
  cases k with
  | zero => omega
  | succ m => exact h.isPrimitiveRoot.pow_inj hi hj heq

/-- The powers of a quotient of two points cancel, unless it is one. -/
theorem sum_pow (h : HalfTurn k ω) {i j : Nat} (hi : i < 2 ^ k) (hj : j < 2 ^ k) :
    ∑ m ∈ Finset.range (2 ^ k), (ω ^ i * ω⁻¹ ^ j) ^ m = if i = j then (2 ^ k : Scalar) else 0 := by
  cases k with
  | zero => simp_all
  | succ k =>
    have hunit : ω ≠ 0 := h.isPrimitiveRoot.ne_zero (by positivity)
    split
    next heq =>
      -- all powers of the quotient are one
      have hone : ω ^ i * ω⁻¹ ^ j = 1 := by
        rw [heq, inv_pow, mul_inv_cancel₀ (pow_ne_zero j hunit)]
      simp only [hone, one_pow, Finset.sum_const, Finset.card_range, nsmul_eq_mul, mul_one]
      push_cast
      rfl
    next hne =>
      -- a geometric sum, which comes full circle
      have hx : ω ^ i * ω⁻¹ ^ j ≠ 1 := by
        rw [inv_pow, Ne, mul_inv_eq_one₀ (pow_ne_zero j hunit)]
        exact fun heq => hne (h.pow_inj hi hj heq)
      have hpow : (ω ^ i * ω⁻¹ ^ j) ^ 2 ^ (k + 1) = 1 := by
        rw [mul_pow, ← pow_mul, ← pow_mul, mul_comm i, mul_comm j, pow_mul, pow_mul, inv_pow,
          h.isPrimitiveRoot.pow_eq_one, inv_one, one_pow, one_pow, mul_one]
      have hsum := geom_sum_mul (ω ^ i * ω⁻¹ ^ j) (2 ^ (k + 1))
      rw [hpow, sub_self] at hsum
      exact (mul_eq_zero.mp hsum).resolve_right (sub_ne_zero.mpr hx)

end HalfTurn

/-! ### The roots of two-power order -/

namespace Scalar

/-- The root of the order `2 ^ k`. -/
def twoPowerRoot (k : Nat) : Scalar :=
  if k = 0 then 1 else generator ^ ((groupOrder - 1) / 2 ^ k)

theorem generator_pow_half : generator ^ ((groupOrder - 1) / 2) = -1 := by decide +kernel

theorem halfTurn_twoPowerRoot {k : Nat} (hk : k ≤ maxDomainExponent) :
    HalfTurn k (twoPowerRoot k) := by
  rintro m rfl
  have hdvd : 2 ^ (m + 1) ∣ groupOrder - 1 :=
    (pow_dvd_pow 2 hk).trans (by decide : 2 ^ maxDomainExponent ∣ groupOrder - 1)
  obtain ⟨c, hc⟩ := hdvd
  -- half of the steps of the root are half of the steps of the generator
  have hquotient : (groupOrder - 1) / 2 ^ (m + 1) * 2 ^ m = (groupOrder - 1) / 2 := by
    rw [hc, Nat.mul_div_cancel_left c (by positivity), pow_succ, mul_comm (2 ^ m), mul_assoc,
      Nat.mul_div_cancel_left _ (by norm_num), mul_comm]
  rw [twoPowerRoot, if_neg m.succ_ne_zero, ← pow_mul, hquotient, generator_pow_half]

/-- A positive number shares no binary digit with its predecessor exactly if it has only one. -/
theorem isPowerOfTwo_iff {n : Nat} (hn : 0 < n) : isPowerOfTwo n = true ↔ ∃ k, n = 2 ^ k := by
  rw [isPowerOfTwo, decide_eq_true_iff, Nat.and_sub_one_eq_zero_iff_isPowerOfTwo hn.ne',
    Nat.isPowerOfTwo]

theorem isPowerOfTwo_two_pow (k : Nat) : isPowerOfTwo (2 ^ k) = true :=
  (isPowerOfTwo_iff (Nat.two_pow_pos k)).mpr ⟨k, rfl⟩

theorem rootOfUnity_two_pow {k : Nat} (hk : k ≤ maxDomainExponent) :
    rootOfUnity (Nat.pow 2 k : Nat) = .ok (twoPowerRoot k) := by
  have hpos : 0 < Nat.pow 2 k := Nat.two_pow_pos k
  have hle : Nat.pow 2 k ≤ Nat.pow 2 maxDomainExponent := Nat.pow_le_pow_right (by norm_num) hk
  have horder : ¬(((Nat.pow 2 k : Nat) : Int) < 1 ∨ isPowerOfTwo (Nat.pow 2 k) = false) := by
    rintro (h | h)
    · omega
    · exact absurd (h.symm.trans (isPowerOfTwo_two_pow k)) (by simp)
  rw [rootOfUnity, rootOfOrder, Int.toNat_natCast, if_neg horder, if_neg (not_lt.mpr hle),
    twoPowerRoot]
  rcases Nat.eq_zero_or_pos k with rfl | hk0
  · rfl
  · have hne : ((Nat.pow 2 k : Nat) : Int) ≠ 1 := by
      have : 1 < 2 ^ k := Nat.one_lt_two_pow hk0.ne'
      exact_mod_cast this.ne'
    rw [if_neg hne, if_neg hk0.ne']
    rfl

end Scalar

namespace Domain

/-- The domains that there are. -/
theorem ofDatum_eq_ok_iff {k : Datum} {d : Domain} :
    ofDatum k = .ok d ↔ ∃ n : Nat, n ≤ Scalar.maxDomainExponent ∧ k.asInteger? = some (n : Int) ∧
      d = ⟨n, Scalar.twoPowerRoot n⟩ := by
  rw [ofDatum]
  cases hk : k.asInteger? with
  | none => simp
  | some n =>
    change ofExponent n = .ok d ↔ _
    rw [ofExponent]
    split
    next hneg =>
      refine iff_of_false (by simp) ?_
      rintro ⟨m, -, hm, -⟩
      have := Option.some.inj hm
      omega
    next hneg =>
      obtain ⟨m, rfl⟩ := Int.eq_ofNat_of_zero_le (not_lt.mp hneg)
      rw [Int.toNat_natCast]
      split
      next hlarge =>
        refine iff_of_false (by simp) ?_
        rintro ⟨m', hm', hm, -⟩
        have := Option.some.inj hm
        omega
      next hsmall =>
        rw [Scalar.rootOfUnity_two_pow (not_lt.mp hsmall), Except.map, Except.ok.injEq]
        constructor
        · rintro rfl
          exact ⟨m, not_lt.mp hsmall, rfl, rfl⟩
        · rintro ⟨m', -, hm, rfl⟩
          obtain rfl : m = m' := by simpa using hm
          rfl

theorem ofDatum_natCast {k : Nat} (hk : k ≤ Scalar.maxDomainExponent) :
    ofDatum (.integer k) = .ok ⟨k, Scalar.twoPowerRoot k⟩ :=
  ofDatum_eq_ok_iff.mpr ⟨k, hk, rfl, rfl⟩

/-- The root of every domain takes a half turn. -/
theorem halfTurn_of_ofDatum {k : Datum} {d : Domain} (h : ofDatum k = .ok d) :
    HalfTurn d.exponent d.root := by
  obtain ⟨n, hn, -, rfl⟩ := ofDatum_eq_ok_iff.mp h
  exact Scalar.halfTurn_twoPowerRoot hn

theorem root_pow_size {k : Datum} {d : Domain} (h : ofDatum k = .ok d) : d.root ^ d.size = 1 := by
  obtain ⟨n, hn, -, rfl⟩ := ofDatum_eq_ok_iff.mp h
  cases n with
  | zero => exact pow_one 1
  | succ m => exact (Scalar.halfTurn_twoPowerRoot hn).isPrimitiveRoot.pow_eq_one

/-- The points come round after the last row. -/
theorem point_mod {k : Datum} {d : Domain} (h : ofDatum k = .ok d) (i : Nat) :
    d.point (i % d.size) = d.point i := by
  conv_rhs => rw [point, ← Nat.mod_add_div i d.size, pow_add, pow_mul, root_pow_size h, one_pow,
    mul_one]
  rfl

end Domain

end LiabilityProof
