import Mathlib.Algebra.BigOperators.Associated
import Mathlib.NumberTheory.LucasPrimality
import Mathlib.Tactic.NormNum.Prime
import LiabilityProof.Curve.Extension
import LiabilityProof.Proofs.Field.Ring

/-!
# The two moduli are prime

`groupOrder` and `coordinateModulus` have 254 bits, so their primality rests on Lucas's test:
`n` is prime as soon as some residue has `n - 1` as its order, which its powers with the
exponents `n - 1` and `(n - 1) / q`, for the prime factors `q` of `n - 1`, decide. Large factors
pass the test in their turn, so the evidence is a chain of tests. The powers are those of
`Residue`, by repeated squaring.

With this the scalars and the coordinates of the first group are fields.
-/

namespace LiabilityProof

open scoped Residue

/-- Every positive number is a modulus. -/
scoped instance Residue.modulus_succ (n : Nat) : Modulus (n + 1) := ⟨n.succ_pos⟩

/-! ### Lucas's test -/

/-- A number, given by the factors of its predecessor, and a base to test it with. -/
structure LucasTest where
  base : Nat
  factors : List Nat

namespace LucasTest

/-- The number that is tested. -/
def number (t : LucasTest) : Nat := t.factors.prod + 1

/-- The base has no smaller order than the predecessor, as far as the factors can tell. -/
def Passes (t : LucasTest) : Prop :=
  (Residue.ofNat t.base : Residue (t.factors.prod + 1)) ^ t.factors.prod = 1 ∧
    ∀ q ∈ t.factors,
      (Residue.ofNat t.base : Residue (t.factors.prod + 1)) ^ (t.factors.prod / q) ≠ 1

instance (t : LucasTest) : Decidable t.Passes := inferInstanceAs (Decidable (_ ∧ _))

/-- A number that passes with prime factors is prime. -/
theorem Passes.prime {t : LucasTest} (h : t.Passes) (hprime : ∀ q ∈ t.factors, q.Prime) :
    t.number.Prime := by
  obtain ⟨hone, hne⟩ := h
  have hpow : ∀ e : Nat, (t.base : ZMod (t.factors.prod + 1)) ^ e =
      ((Residue.ofNat t.base : Residue (t.factors.prod + 1)) ^ e).toZMod := by
    intro e
    rw [Residue.toZMod_pow, Residue.toZMod_ofNat]
  refine lucas_primality (t.factors.prod + 1) t.base ?_ fun q hq hdvd hq1 => ?_
  · rw [Nat.add_sub_cancel, hpow, hone, Residue.toZMod_one]
  · -- a prime that divides the product is one of the factors
    rw [Nat.add_sub_cancel] at hdvd hq1
    obtain ⟨r, hr, hqr⟩ := (Prime.dvd_prod_iff hq.prime).mp hdvd
    obtain rfl : q = r := (Nat.prime_dvd_prime_iff_eq hq (hprime r hr)).mp hqr
    rw [hpow, ← Residue.toZMod_one] at hq1
    exact hne q hr (Residue.toZMod_injective hq1)

/-- Every test of the chain passes, and its factors are known or tested by later ones. -/
def Chain (known : List Nat) : List LucasTest → Prop
  | [] => True
  | t :: chain =>
    t.Passes ∧ (∀ q ∈ t.factors, q ∈ known ∨ q ∈ chain.map number) ∧ Chain known chain

instance Chain.decidable (known : List Nat) : ∀ chain, Decidable (Chain known chain)
  | [] => inferInstanceAs (Decidable True)
  | _ :: chain =>
    have := Chain.decidable known chain
    inferInstanceAs (Decidable (_ ∧ _ ∧ _))

theorem Chain.prime {known : List Nat} (hknown : ∀ p ∈ known, p.Prime) {chain : List LucasTest}
    (h : Chain known chain) : ∀ p ∈ chain.map number, p.Prime := by
  induction chain with
  | nil => simp
  | cons t chain ih =>
    obtain ⟨hpass, hfactors, hchain⟩ := h
    have hlater := ih hchain
    have hnumber : t.number.Prime :=
      hpass.prime fun q hq => (hfactors q hq).elim (hknown q) (hlater q)
    simpa using ⟨hnumber, by simpa using hlater⟩

end LucasTest

/-! ### The two moduli -/

/-- The small primes in the tests of the moduli. -/
def smallFactors : List Nat :=
  [2, 3, 5, 7, 11, 13, 19, 29, 41, 67, 73, 83, 89, 107, 229, 311, 379, 661, 823, 853, 911, 983,
    1637, 3557, 3691, 4999, 11003, 13327, 93001, 237073, 327599, 1593227, 1853641, 4562087]

theorem prime_of_mem_smallFactors : ∀ p ∈ smallFactors, p.Prime := by
  simp only [smallFactors, List.forall_mem_cons]
  norm_num

/-- The tests of the two moduli and of the large factors that they meet. -/
def moduliChain : List LucasTest := [
    -- the modulus of the coordinates
    ⟨3, [2, 3, 3, 13, 29, 67, 229, 311, 983, 11003, 405928799, 11465965001,
      13427688667394608761327070753331941386769]⟩,
    ⟨17, [2, 2, 2, 2, 3, 7, 11, 1853641, 4562087, 173171039, 2480874801745591]⟩,
    ⟨6, [2, 3, 3, 5, 19, 41, 35385462869]⟩,
    ⟨2, [2, 2, 7, 1263766531]⟩,
    ⟨10, [2, 3, 5, 13, 911, 3557]⟩,
    ⟨13, [2, 73, 89, 13327]⟩,
    ⟨3, [2, 2, 2, 5, 5, 5, 5, 7, 327599]⟩,
    -- the order of the groups
    ⟨5, List.replicate 28 2 ++ [3, 3, 13, 29, 983, 11003, 237073, 405928799, 1670836401704629,
      13818364434197438864469338081]⟩,
    ⟨3, [2, 2, 2, 2, 2, 5, 823, 1593227, 65865678001877903]⟩,
    ⟨5, [2, 83, 379, 1637, 639533339]⟩,
    ⟨2, [2, 2, 3, 3, 3, 3, 5156902474397]⟩,
    ⟨2, [2, 2, 107, 12048837557]⟩,
    ⟨2, [2, 2, 7, 7, 661, 93001]⟩,
    ⟨2, [2, 229, 853, 1637]⟩,
    -- a factor of both predecessors
    ⟨22, [2, 11, 3691, 4999]⟩]

theorem prime_of_mem_moduliChain : ∀ p ∈ moduliChain.map LucasTest.number, p.Prime :=
  LucasTest.Chain.prime prime_of_mem_smallFactors (by decide +kernel)

/-- The order of the pairing groups is prime. -/
theorem groupOrder_prime : groupOrder.Prime := prime_of_mem_moduliChain groupOrder (by decide)

/-- The modulus of the coordinates is prime. -/
theorem coordinateModulus_prime : coordinateModulus.Prime :=
  prime_of_mem_moduliChain coordinateModulus (by decide)

/-- The scalars are a field. -/
scoped instance Residue.fieldScalar : Field Scalar := Residue.field groupOrder_prime (by decide)

/-- The coordinates of the first group are a field. -/
scoped instance Residue.fieldFq : Field Fq := Residue.field coordinateModulus_prime (by decide)

end LiabilityProof
