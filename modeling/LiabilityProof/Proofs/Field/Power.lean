import Mathlib.Algebra.Group.Defs
import LiabilityProof.Field.Power

/-!
# Repeated squaring computes powers

Halving the exponent loses its last digit, which is the factor multiplied on afterwards.
-/

namespace LiabilityProof

/-- What preserves products takes powers by repeated squaring to powers. -/
theorem map_squaringPower {α M : Type} [One α] [Mul α] [Monoid M] {f : α → M} (hone : f 1 = 1)
    (hmul : ∀ a b, f (a * b) = f a * f b) (a : α) (n : Nat) :
    f (squaringPower a n) = f a ^ n := by
  fun_induction squaringPower a n with
  | case1 a => rw [hone, pow_zero]
  | case2 a n _ hodd ih =>
    rw [hmul, ih, hmul, ← pow_two, ← pow_mul, ← pow_succ]
    congr 1
    omega
  | case3 a n _ heven ih =>
    rw [ih, hmul, ← pow_two, ← pow_mul]
    congr 1
    omega

theorem squaringPower_eq_pow {M : Type} [Monoid M] (a : M) (n : Nat) : squaringPower a n = a ^ n :=
  map_squaringPower (f := id) rfl (fun _ _ => rfl) a n

end LiabilityProof
