import LiabilityProof.Kzg.Parameters
import LiabilityProof.Polynomial.Basic

/-!
# Polynomial commitments

The commitment to a polynomial `f` is the point `f(τ)·G₁`, computed from the powers of `τ` in
the first group. To open it at `z` is to commit to the quotient of `f - y` by `x - z`, where the
remainder is dropped: the opening does not depend on the claimed value `y`, and a wrong claim is
noticed by the verifier.

The verifier checks `e(C - y·G₁, G₂) = e(π, τ·G₂ - z·G₂)`.
-/

namespace LiabilityProof

/-- What a committer needs of the parameters. -/
structure CommitmentKey where
  /-- The multiples of the first generator by the powers of the secret. -/
  powers : List G1Point
  /-- The largest degree, as claimed. -/
  maxDegree : Datum

/-- The key of the parameters themselves. -/
def Parameters.key (p : Parameters) : CommitmentKey := ⟨p.powers1, p.maxDegree⟩

namespace Kzg

/-- The combination of the powers with the given coefficients, added to `sum`. A coefficient of
zero does not ask for its power. -/
def combine (E : PairingGroups) : List Scalar → List G1Point → G1Point → Except Failure G1Point
  | [], _, sum => .ok sum
  | c :: cs, [], sum => if c = 0 then combine E cs [] sum else .error .pastTheEnd
  | c :: cs, p :: ps, sum =>
    combine E cs ps (if c = 0 then sum else E.first.add sum (E.first.mul c p))

/-- The commitment to a polynomial. A largest degree that the polynomial has passed is negative, or
there are more coefficients. -/
def commit (E : PairingGroups) (f : Poly) (key : CommitmentKey) : Except Failure G1Point :=
  match key.maxDegree.compareInteger? f.degree with
  | none => .error .wrongShape
  | some (some .lt) =>
    .error (.showing key.maxDegree.ifNegative (.degreeTooLarge f.degree key.maxDegree))
  | some _ => combine E f.coeffs key.powers .infinity

/-- The opening at a point of a polynomial claimed to have a value there. -/
def openAt (E : PairingGroups) (f : Poly) (point value : Scalar) (key : CommitmentKey) :
    Except Failure G1Point :=
  commit E ((f - Poly.constant value).quotient point) key

/-- Whether an opening shows that the committed polynomial has a value at a point. -/
def verify (E : PairingGroups) (commitment opening : G1Point) (point value : Scalar)
    (powers2 : List G2Point) : Except Failure Bool :=
  match powers2 with
  | base :: tau :: _ => do
    let shifted := E.second.add tau (E.second.neg (E.second.mul point base))
    let reduced := E.first.add commitment (E.first.neg (E.first.mul value E.first.generator))
    let left ← E.pair base reduced
    let right ← E.pair shifted opening
    have := E.decEqTarget
    pure (decide (left = right))
  | _ => .error .pastTheEnd

end Kzg

end LiabilityProof
