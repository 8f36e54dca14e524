import LiabilityProof.Field.Power

/-!
# Residues modulo a fixed number

`Residue m` is a residue class modulo `m`, held as its least non-negative member. The
arithmetic is that of the ring of residues; **division by zero gives zero**, the convention
under which `a / b = a * b⁻¹` holds without a side condition, and the inverse is taken as
the power `a ^ (m - 2)`, which is the inverse of every non-zero class when `m` is prime.

The three ways in are total: `ofNat` and `ofInt` reduce, and `Residue.mk` asks for the bound.
-/

namespace LiabilityProof

/-- A number to take residues by. -/
class Modulus (m : Nat) : Prop where
  /-- It is positive. -/
  pos : 0 < m

/-- A residue class modulo `m`, held as its least non-negative member. -/
structure Residue (m : Nat) where
  /-- The least non-negative member of the class. -/
  val : Nat
  /-- The member lies below the modulus. -/
  isLt : val < m
deriving DecidableEq

namespace Residue

@[ext]
theorem ext {m : Nat} {a b : Residue m} (h : a.val = b.val) : a = b := by
  cases a; cases b; cases h; rfl

variable {m : Nat}

/-- The class of the sum: the sum of the members, less the modulus where it reaches it. -/
def add (a b : Residue m) : Residue m :=
  let s := a.val + b.val
  if h : s < m then ⟨s, h⟩
  else ⟨s - m, by have := a.isLt; have := b.isLt; omega⟩

/-- The class of the difference: the difference of the members, plus the modulus where it
falls short. -/
def sub (a b : Residue m) : Residue m :=
  if h : b.val ≤ a.val then ⟨a.val - b.val, by have := a.isLt; omega⟩
  else ⟨a.val + m - b.val, by have := a.isLt; omega⟩

instance : Add (Residue m) := ⟨add⟩

instance : Sub (Residue m) := ⟨sub⟩

theorem val_add (a b : Residue m) : (a + b).val = (a.val + b.val) % m := by
  change (add a b).val = _
  have ha := a.isLt
  have hb := b.isLt
  by_cases h : a.val + b.val < m
  · simp [add, h, Nat.mod_eq_of_lt h]
  · rw [Nat.mod_eq_sub_mod (by omega), Nat.mod_eq_of_lt (by omega)]
    simp [add, h]

theorem val_sub (a b : Residue m) : (a - b).val = (a.val + (m - b.val)) % m := by
  change (sub a b).val = _
  have ha := a.isLt
  have hb := b.isLt
  by_cases h : b.val ≤ a.val
  · have hs : a.val + (m - b.val) = (a.val - b.val) + m := by omega
    rw [hs, Nat.add_mod_right, Nat.mod_eq_of_lt (by omega)]
    simp [sub, h]
  · have hs : a.val + (m - b.val) = a.val + m - b.val := by omega
    rw [hs, Nat.mod_eq_of_lt (by omega)]
    simp [sub, h]

variable [Modulus m]

/-- The class of a natural number. -/
def ofNat (n : Nat) : Residue m :=
  ⟨n % m, Nat.mod_lt n Modulus.pos⟩

/-- The class of an integer; a negative one is brought up by multiples of the modulus. -/
def ofInt (n : Int) : Residue m :=
  ofNat (n % (m : Int)).toNat

instance : Zero (Residue m) := ⟨ofNat 0⟩

instance : One (Residue m) := ⟨ofNat 1⟩

instance : Inhabited (Residue m) := ⟨0⟩

/-- The class of the negative. -/
def neg (a : Residue m) : Residue m := sub 0 a

/-- The class of the product. -/
def mul (a b : Residue m) : Residue m := ofNat (a.val * b.val)

instance : Neg (Residue m) := ⟨neg⟩

instance : Mul (Residue m) := ⟨mul⟩

@[simp] theorem val_ofNat (n : Nat) : (ofNat n : Residue m).val = n % m := rfl

@[simp] theorem val_zero : (0 : Residue m).val = 0 := Nat.zero_mod m

theorem val_neg (a : Residue m) : (-a).val = (m - a.val) % m := by
  change ((0 : Residue m) - a).val = _
  rw [val_sub, val_zero, Nat.zero_add]

theorem val_mul (a b : Residue m) : (a * b).val = a.val * b.val % m := rfl

/-- Reducing the held member changes nothing. -/
@[simp] theorem ofNat_val (a : Residue m) : ofNat a.val = a :=
  ext (Nat.mod_eq_of_lt a.isLt)

theorem ofInt_val (a : Residue m) : ofInt (a.val : Int) = a := by
  rw [ofInt, Int.emod_eq_of_lt (Int.natCast_nonneg _) (Int.ofNat_lt.mpr a.isLt),
    Int.toNat_natCast, ofNat_val]

instance : Pow (Residue m) Nat := ⟨squaringPower⟩

/-- The inverse as a power. For a prime modulus it inverts every non-zero class, and it
sends zero to zero. -/
instance : Inv (Residue m) := ⟨fun a => a ^ (m - 2)⟩

instance : Div (Residue m) := ⟨fun a b => a * b⁻¹⟩

theorem inv_def (a : Residue m) : a⁻¹ = a ^ (m - 2) := rfl

theorem div_def (a b : Residue m) : a / b = a * b⁻¹ := rfl

end Residue

end LiabilityProof
