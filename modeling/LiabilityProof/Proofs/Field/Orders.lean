import LiabilityProof.Proofs.Field.Roots

/-!
# The orders of the roots

There is a root of the order `n` exactly if `n` is one of `1, 2, 4, …, 2 ^ 28`; every other integer
is refused. The root has this order and no smaller one, so its powers at two rows are one point
exactly if the rows leave the same remainder by the number of rows. The square of a root is the root
of half its order: the points of a domain are every other point of the next larger one
(`rootOfUnity_order`).
-/

namespace LiabilityProof

open scoped Residue

namespace Scalar

variable {k : Nat}

/-! ### The roots of two-power order -/

theorem isPrimitiveRoot_twoPowerRoot (hk : k ≤ maxDomainExponent) :
    IsPrimitiveRoot (twoPowerRoot k) (2 ^ k) := by
  cases k with
  | zero => exact IsPrimitiveRoot.one
  | succ m => exact (halfTurn_twoPowerRoot hk).isPrimitiveRoot

/-- Two steps of a root are one step of the root of half its order. -/
theorem twoPowerRoot_succ_sq (hk : k + 1 ≤ maxDomainExponent) :
    twoPowerRoot (k + 1) ^ 2 = twoPowerRoot k := by
  cases k with
  | zero => exact (halfTurn_twoPowerRoot hk).isPrimitiveRoot.pow_eq_one
  | succ m =>
    have hdvd : 2 ^ (m + 2) ∣ groupOrder - 1 :=
      (pow_dvd_pow 2 hk).trans (by decide : 2 ^ maxDomainExponent ∣ groupOrder - 1)
    obtain ⟨c, hc⟩ := hdvd
    have hsteps : (groupOrder - 1) / 2 ^ (m + 2) * 2 = (groupOrder - 1) / 2 ^ (m + 1) := by
      rw [hc, Nat.mul_div_cancel_left c (by positivity), pow_succ 2 (m + 1), mul_assoc,
        Nat.mul_div_cancel_left _ (by positivity), mul_comm]
    rw [twoPowerRoot, if_neg (m + 1).succ_ne_zero, ← pow_mul, hsteps, twoPowerRoot,
      if_neg m.succ_ne_zero]

/-! ### The orders that have a root -/

/-- An integer is refused unless it is one of the two-power orders. -/
theorem order_or_refused (n : Int) :
    (∃ k ≤ maxDomainExponent, n = (Nat.pow 2 k : Nat)) ∨
      ∃ failure, rootOfUnity n = .error failure ∧ failure.kind = .value := by
  rw [rootOfUnity, rootOfOrder]
  split
  next =>
    exact .inr ⟨_, rfl, Failure.kind_showing_integer n rfl⟩
  next horder =>
    obtain ⟨hpos, hpower⟩ := not_or.mp horder
    split
    next => exact .inr ⟨_, rfl, Failure.kind_showing_integer n rfl⟩
    next hlarge =>
      left
      -- the test on the binary digits has found a power of two
      obtain ⟨m, rfl⟩ := Int.eq_ofNat_of_zero_le (by omega : 0 ≤ n)
      rw [Int.toNat_natCast] at hpower hlarge
      have hpos : 0 < m := by exact_mod_cast not_lt.mp hpos
      obtain ⟨k, rfl⟩ := (isPowerOfTwo_iff hpos).mp (eq_true_of_ne_false hpower)
      exact ⟨k, (Nat.pow_le_pow_iff_right (by norm_num)).mp (not_lt.mp hlarge), rfl⟩

/-- The orders that have a root, and their roots. -/
theorem rootOfUnity_eq_ok_iff {n : Int} {ω : Scalar} :
    rootOfUnity n = .ok ω ↔
      ∃ k ≤ maxDomainExponent, n = (Nat.pow 2 k : Nat) ∧ ω = twoPowerRoot k := by
  constructor
  · intro h
    obtain ⟨k, hk, rfl⟩ | ⟨failure, hfailure, -⟩ := order_or_refused n
    · rw [rootOfUnity_two_pow hk] at h
      exact ⟨k, hk, rfl, (Except.ok.inj h).symm⟩
    · rw [hfailure] at h
      exact absurd h (by simp)
  · rintro ⟨k, hk, rfl, rfl⟩
    exact rootOfUnity_two_pow hk

/-- There are roots of the orders `2 ^ 0, …, 2 ^ 28`, and any other integer is refused as an
unacceptable value. The powers of a root are equal exactly at exponents that leave the same
remainder by its order, and its square is the root of half the order. -/
theorem rootOfUnity_order (n : Int) :
    ((∃ ω, rootOfUnity n = .ok ω) ↔ ∃ k : Nat, k ≤ 28 ∧ n = 2 ^ k) ∧
      ((¬∃ k : Nat, k ≤ 28 ∧ n = 2 ^ k) →
        ∃ failure, rootOfUnity n = .error failure ∧ failure.kind = .value) ∧
      ∀ ω, rootOfUnity n = .ok ω →
        (orderOf ω : Int) = n ∧ (∀ i j : Nat, ω ^ i = ω ^ j ↔ (i : Int) % n = j % n) ∧
          (2 ≤ n → rootOfUnity (n / 2) = .ok (ω ^ 2)) := by
  have hpow : ∀ k : Nat, ((Nat.pow 2 k : Nat) : Int) = 2 ^ k := fun k => Nat.cast_pow 2 k
  refine ⟨?_, ?_, ?_⟩
  · simp only [rootOfUnity_eq_ok_iff, hpow]
    constructor
    · rintro ⟨ω, k, hk, hn, -⟩
      exact ⟨k, hk, hn⟩
    · rintro ⟨k, hk, hn⟩
      exact ⟨_, k, hk, hn, rfl⟩
  · intro hn
    obtain ⟨k, hk, h⟩ | h := order_or_refused n
    · exact absurd ⟨k, hk, h.trans (hpow k)⟩ hn
    · exact h
  · intro ω h
    obtain ⟨k, hk, rfl, rfl⟩ := rootOfUnity_eq_ok_iff.mp h
    have hroot := isPrimitiveRoot_twoPowerRoot hk
    have horder : orderOf (twoPowerRoot k) = 2 ^ k := hroot.eq_orderOf.symm
    refine ⟨congrArg Nat.cast horder, fun i j => ?_, fun hn => ?_⟩
    · have hfinite : IsOfFinOrder (twoPowerRoot k) :=
        orderOf_pos_iff.mp (horder ▸ Nat.two_pow_pos k)
      rw [hfinite.pow_eq_pow_iff_modEq, horder, Nat.ModEq]
      exact_mod_cast Iff.rfl
    · cases k with
      | zero => exact absurd hn (by decide)
      | succ m =>
        have hhalf : ((Nat.pow 2 (m + 1) : Nat) : Int) / 2 = (Nat.pow 2 m : Nat) := by
          rw [hpow, hpow, pow_succ]
          exact Int.mul_ediv_cancel _ (by norm_num)
        rw [hhalf, rootOfUnity_two_pow (Nat.le_of_succ_le hk), twoPowerRoot_succ_sq hk]

/-- The largest domain has `2 ^ 28` points, and there is none of twice as many. -/
theorem rootOfUnity_order_largest :
    (∃ ω, rootOfUnity (2 ^ 28) = .ok ω ∧ (orderOf ω : Int) = 2 ^ 28 ∧ ω ^ (2 ^ 28 + 3) = ω ^ 3 ∧
        rootOfUnity (2 ^ 28 / 2) = .ok (ω ^ 2)) ∧
      ∃ failure, rootOfUnity (2 ^ 29) = .error failure ∧ failure.kind = .value := by
  constructor
  · obtain ⟨hiff, -, hroot⟩ := rootOfUnity_order (2 ^ 28)
    obtain ⟨ω, hω⟩ := hiff.mpr ⟨28, le_rfl, rfl⟩
    obtain ⟨horder, hpow, hsq⟩ := hroot ω hω
    exact ⟨ω, hω, horder, (hpow _ _).mpr (by decide), hsq (by decide)⟩
  · refine (rootOfUnity_order (2 ^ 29)).2.1 ?_
    rintro ⟨k, hk, h⟩
    have hlt : (2 : Int) ^ k < 2 ^ 29 := pow_lt_pow_right₀ (by norm_num) (by omega)
    exact absurd h hlt.ne'

end Scalar

end LiabilityProof
