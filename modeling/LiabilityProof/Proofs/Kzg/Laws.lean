import LiabilityProof.Curve.Groups
import LiabilityProof.Proofs.Field.Primality

/-!
# The laws of pairing groups

What the commitment scheme relies on when it computes with points. The multiples of either
generator are a copy of the scalars: `G.multiple` is injective, takes sums to sums and negatives
to negatives, zero goes to the point at infinity, and a multiple of a multiple is a multiple.
Pairing a multiple by `b` of the second generator with one by `a` of the first gives the power
with exponent `a * b` of one value whose powers with different scalars differ.

Nothing is said about points that are no multiples of the generators.
-/

namespace LiabilityProof

open scoped Residue

/-- The multiple of the generator by a scalar. -/
def PointGroup.multiple {P : Type} (G : PointGroup P) (a : Scalar) : P := G.mul a G.generator

/-- Multiples of the generator are added and multiplied as their scalars are. Different scalars may
have one multiple. -/
structure PointGroup.Homomorphic {P : Type} (G : PointGroup P) (zero : P) : Prop where
  /-- The multiple by zero is the zero. -/
  multiple_zero : G.multiple 0 = zero
  /-- Sums go to sums. -/
  add_multiple : ∀ a b, G.add (G.multiple a) (G.multiple b) = G.multiple (a + b)
  /-- A multiple of a multiple is the multiple by the product. -/
  mul_multiple : ∀ a b, G.mul a (G.multiple b) = G.multiple (a * b)

/-- The multiples of the generator are a copy of the scalars, with the given point as zero. -/
structure PointGroup.Lawful {P : Type} (G : PointGroup P) (zero : P) : Prop where
  /-- The multiple by zero is the zero. -/
  multiple_zero : G.multiple 0 = zero
  /-- The multiple by one is the generator. -/
  multiple_one : G.multiple 1 = G.generator
  /-- Sums go to sums. -/
  add_multiple : ∀ a b, G.add (G.multiple a) (G.multiple b) = G.multiple (a + b)
  /-- Negatives go to negatives. -/
  neg_multiple : ∀ a, G.neg (G.multiple a) = G.multiple (-a)
  /-- A multiple of a multiple is the multiple by the product. -/
  mul_multiple : ∀ a b, G.mul a (G.multiple b) = G.multiple (a * b)
  /-- The generator has the order of the scalars. -/
  multiple_injective : Function.Injective G.multiple

/-- Two groups of the order of the scalars, with a pairing that multiplies exponents. -/
structure PairingGroups.Lawful (E : PairingGroups) : Prop where
  /-- The first group, around the point at infinity. -/
  first : E.first.Lawful .infinity
  /-- The second group, around the point at infinity. -/
  second : E.second.Lawful .infinity
  /-- The pairing of multiples is the power with the product of their scalars. -/
  pair_multiple : ∃ power : Scalar → E.Target, Function.Injective power ∧
    ∀ a b, E.pair (E.second.multiple b) (E.first.multiple a) = .ok (power (a * b))

namespace PointGroup.Lawful

variable {P : Type} {G : PointGroup P} {zero : P}

theorem homomorphic (h : G.Lawful zero) : G.Homomorphic zero :=
  ⟨h.multiple_zero, h.add_multiple, h.mul_multiple⟩

theorem sub_multiple (h : G.Lawful zero) (a b : Scalar) :
    G.add (G.multiple a) (G.neg (G.multiple b)) = G.multiple (a - b) := by
  rw [h.neg_multiple, h.add_multiple, sub_eq_add_neg]

end PointGroup.Lawful

/-- Multiples pair alike exactly when the products of their scalars agree. -/
theorem PairingGroups.Lawful.exists_pair {E : PairingGroups} (hE : E.Lawful)
    (a b a' b' : Scalar) :
    ∃ u u', E.pair (E.second.multiple b) (E.first.multiple a) = .ok u ∧
      E.pair (E.second.multiple b') (E.first.multiple a') = .ok u' ∧
      (u = u' ↔ a * b = a' * b') := by
  obtain ⟨power, hinj, hpair⟩ := hE.pair_multiple
  exact ⟨power (a * b), power (a' * b'), hpair a b, hpair a' b', hinj.eq_iff⟩

end LiabilityProof
