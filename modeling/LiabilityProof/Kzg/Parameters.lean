import LiabilityProof.Curve.Groups
import LiabilityProof.Hash.Sha256

/-!
# Public parameters

The parameters of the commitment scheme are the multiples of the two generators by the powers of
a secret `τ`: all up to the largest degree in the first group, the zeroth and the first in the
second. Parameters that were read from outside may be anything of that shape; in particular the
degree they claim is an untrusted value, and need not be the one their powers support.

`Parameters.ofSeed` derives `τ` from a hash. Whoever knows `τ` can open a commitment to any
value, so parameters made here serve for tests and development only.
-/

namespace LiabilityProof

/-- The public parameters. -/
structure Parameters where
  /-- The multiples of the first generator by the powers of the secret. -/
  powers1 : List G1Point
  /-- The multiples of the second generator by the zeroth and first power. -/
  powers2 : List G2Point
  /-- The largest degree, as claimed. -/
  maxDegree : Datum

namespace Parameters

/-- The powers `w, w·τ, w·τ², …`, as many as asked for. -/
def powersFrom (τ : Scalar) : Nat → Scalar → List Scalar
  | 0, _ => []
  | n + 1, w => w :: powersFrom τ n (w * τ)

/-- The parameters for a secret and a largest degree. A negative degree has no powers. -/
def generate (E : PairingGroups) (τ : Scalar) (maxDegree : Int) : Parameters where
  powers1 := (powersFrom τ (maxDegree + 1).toNat 1).map fun w => E.first.mul w E.first.generator
  powers2 := [E.second.generator, E.second.mul τ E.second.generator]
  maxDegree := .integer maxDegree

/-- The secret that a seed determines: the hash of its text. -/
def secretOfSeed (seed : Datum) : Scalar :=
  Scalar.encode (Text.ofBigEndian (Sha256.hash (Text.utf8 seed.display)))

/-- The parameters for a seed and a largest degree. -/
def ofSeed (E : PairingGroups) (seed : Datum) (maxDegree : Int) : Parameters :=
  generate E (secretOfSeed seed) maxDegree

end Parameters

end LiabilityProof
