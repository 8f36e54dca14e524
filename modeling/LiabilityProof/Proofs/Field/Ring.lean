import Mathlib.Algebra.Ring.InjSurj
import Mathlib.Data.ZMod.Basic
import Mathlib.FieldTheory.Finite.Basic
import LiabilityProof.Field.Scalar
import LiabilityProof.Proofs.Field.Power

/-!
# The ring of residues

The arithmetic of `Residue m` is that of `ZMod m`: `toZMod` is injective and keeps every
operation, the power by repeated squaring included. So residues are a commutative ring, and for
an odd prime modulus a field, in which the power `a ^ (m - 2)` is the inverse and the inverse of
zero is zero.

The instances are scoped: `open scoped Residue` makes them available.
-/

namespace LiabilityProof

namespace Residue

variable {m : Nat}

/-- The class as a member of `ZMod m`. -/
def toZMod (a : Residue m) : ZMod m := a.val

theorem toZMod_injective [Modulus m] : Function.Injective (toZMod : Residue m → ZMod m) := by
  intro a b h
  have : NeZero m := ⟨Modulus.pos.ne'⟩
  have hval := congrArg ZMod.val h
  rw [toZMod, toZMod, ZMod.val_natCast_of_lt a.isLt, ZMod.val_natCast_of_lt b.isLt] at hval
  exact ext hval

@[simp]
theorem toZMod_add (a b : Residue m) : (a + b).toZMod = a.toZMod + b.toZMod := by
  rw [toZMod, val_add, ZMod.natCast_mod, Nat.cast_add]
  rfl

@[simp]
theorem toZMod_sub (a b : Residue m) : (a - b).toZMod = a.toZMod - b.toZMod := by
  rw [toZMod, val_sub, ZMod.natCast_mod, Nat.cast_add, Nat.cast_sub b.isLt.le,
    ZMod.natCast_self, zero_sub, ← sub_eq_add_neg]
  rfl

variable [Modulus m]

@[simp]
theorem toZMod_ofNat (n : Nat) : (ofNat n : Residue m).toZMod = n := by
  rw [toZMod, val_ofNat, ZMod.natCast_mod]

theorem toZMod_ofInt (n : Int) : (ofInt n : Residue m).toZMod = n := by
  have hm : (m : Int) ≠ 0 := by exact_mod_cast (Modulus.pos : 0 < m).ne'
  have hn : ((n % (m : Int)).toNat : Int) = n % m := Int.toNat_of_nonneg (Int.emod_nonneg n hm)
  rw [ofInt, toZMod_ofNat, ← Int.cast_natCast, hn, ZMod.intCast_mod]

@[simp]
theorem toZMod_zero : (0 : Residue m).toZMod = 0 := (toZMod_ofNat 0).trans Nat.cast_zero

@[simp]
theorem toZMod_one : (1 : Residue m).toZMod = 1 := (toZMod_ofNat 1).trans Nat.cast_one

@[simp]
theorem toZMod_mul (a b : Residue m) : (a * b).toZMod = a.toZMod * b.toZMod := by
  rw [toZMod, val_mul, ZMod.natCast_mod, Nat.cast_mul]
  rfl

@[simp]
theorem toZMod_neg (a : Residue m) : (-a).toZMod = -a.toZMod := by
  rw [toZMod, val_neg, ZMod.natCast_mod, Nat.cast_sub a.isLt.le, ZMod.natCast_self, zero_sub]
  rfl

@[simp]
theorem toZMod_pow (a : Residue m) (n : Nat) : (a ^ n).toZMod = a.toZMod ^ n :=
  map_squaringPower toZMod_one toZMod_mul a n

/-! ### The ring -/

scoped instance : NatCast (Residue m) := ⟨ofNat⟩

scoped instance : IntCast (Residue m) := ⟨ofInt⟩

scoped instance : SMul Nat (Residue m) := ⟨fun n a => ofNat n * a⟩

scoped instance : SMul Int (Residue m) := ⟨fun n a => ofInt n * a⟩

scoped instance commRing : CommRing (Residue m) :=
  toZMod_injective.commRing toZMod toZMod_zero toZMod_one toZMod_add toZMod_mul toZMod_neg
    toZMod_sub
    (fun n a => by
      rw [nsmul_eq_mul, ← toZMod_ofNat n]
      exact toZMod_mul (ofNat n) a)
    (fun n a => by
      rw [zsmul_eq_mul, ← toZMod_ofInt n]
      exact toZMod_mul (ofInt n) a)
    toZMod_pow toZMod_ofNat toZMod_ofInt

theorem ofNat_eq_cast (n : Nat) : (ofNat n : Residue m) = n := rfl

theorem natCast_val (a : Residue m) : (a.val : Residue m) = a := ofNat_val a

theorem natCast_eq_zero_iff (n : Nat) : (n : Residue m) = 0 ↔ m ∣ n := by
  rw [← toZMod_injective.eq_iff, toZMod_zero, ← ofNat_eq_cast, toZMod_ofNat,
    ZMod.natCast_eq_zero_iff]

/-! ### The field -/

/-- The `(m - 2)`-th power is the inverse, by the little theorem of Fermat. -/
theorem mul_inv_cancel_of_prime (hm : m.Prime) (h2 : 2 < m) {a : Residue m} (ha : a ≠ 0) :
    a * a⁻¹ = 1 := by
  have : Fact m.Prime := ⟨hm⟩
  have hz : a.toZMod ≠ 0 := fun h => ha (toZMod_injective (h.trans toZMod_zero.symm))
  apply toZMod_injective
  rw [inv_def, toZMod_mul, toZMod_pow, toZMod_one, ← pow_succ',
    show m - 2 + 1 = m - 1 by omega, ZMod.pow_card_sub_one_eq_one hz]

theorem inv_zero_of_two_lt (h2 : 2 < m) : (0 : Residue m)⁻¹ = 0 := by
  apply toZMod_injective
  rw [inv_def, toZMod_pow, toZMod_zero, zero_pow (by omega)]

/-- The residues modulo an odd prime are a field, with the inverse they have. -/
abbrev field (hm : m.Prime) (h2 : 2 < m) : Field (Residue m) :=
  { commRing with
    inv := fun a => a⁻¹
    div := fun a b => a / b
    div_eq_mul_inv := div_def
    exists_pair_ne := ⟨0, 1, fun h => by
      have h01 : m ∣ 1 := (natCast_eq_zero_iff 1).mp (Nat.cast_one.trans h.symm)
      exact absurd (Nat.le_of_dvd one_pos h01) (by omega)⟩
    mul_inv_cancel := fun _ ha => mul_inv_cancel_of_prime hm h2 ha
    inv_zero := inv_zero_of_two_lt h2
    nnqsmul := _
    nnqsmul_def := fun _ _ => rfl
    qsmul := _
    qsmul_def := fun _ _ => rfl }

end Residue

end LiabilityProof
