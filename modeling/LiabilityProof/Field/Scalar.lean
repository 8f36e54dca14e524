import LiabilityProof.Field.Residue

/-!
# The scalar field

Identities, balances, polynomial coefficients and tree hashes all live in one field: the
residues modulo the prime order of the pairing groups. Numbers of any size enter it through
`Scalar.encode`, which reduces silently; `Scalar.fits?` is the question whether it did not
have to.

The order is one more than a multiple of `2 ^ 28`, so the field has a subgroup of order
`2 ^ k` for every `k ≤ 28`, and `Scalar.generator` is a residue whose powers reach them all.
-/

namespace LiabilityProof

/-- The prime order of the pairing groups, and the modulus of the scalar field. -/
def groupOrder : Nat :=
  21888242871839275222246405745257275088548364400416034343698204186575808495617

instance : Modulus groupOrder := ⟨by decide⟩

/-- An element of the scalar field. -/
abbrev Scalar := Residue groupOrder

namespace Scalar

/-- The field element of a natural number of any size. -/
def encode (n : Nat) : Scalar := Residue.ofNat n

/-- Whether an integer is the least non-negative member of its class. -/
def fits (n : Int) : Bool := decide (0 ≤ n) && decide (n < groupOrder)

/-- A residue whose powers run through every subgroup of order `2 ^ k`. -/
def generator : Scalar := Residue.ofNat 5

/-- The largest `k` for which the field has a subgroup of order `2 ^ k`. -/
def maxDomainExponent : Nat := 28

/-- The width in bytes of one written field element or coordinate. -/
def byteWidth : Nat := 32

end Scalar

end LiabilityProof
