import LiabilityProof.Kzg.Commitment

/-!
# Points of either group

A commitment and an opening are points of the first group, but somebody may hand over a point of
the second one in their place. An `AnyPoint` is a point of either group; the point at infinity is
one of both. The operations are those of the two groups, and refuse what belongs to different
ones.

`AnyPoint.verify` is the verification of an opening for such points. For points of the first group
it is `Kzg.verify` (`AnyPoint.verify_ofFirst`).
-/

namespace LiabilityProof

/-- A point of the first or of the second group. -/
inductive AnyPoint where
  /-- The point at infinity of both. -/
  | infinity
  /-- A finite point of the first group. -/
  | first (x y : Fq)
  /-- A finite point of the second group. -/
  | second (x y : Fq2)

namespace AnyPoint

/-- A point of the first group. -/
def ofFirst : G1Point → AnyPoint
  | .infinity => infinity
  | .affine x y => first x y

/-- A point of the second group. -/
def ofSecond : G2Point → AnyPoint
  | .infinity => infinity
  | .affine x y => second x y

/-- The point of the first group that a point is. -/
def toFirst : AnyPoint → Except Failure G1Point
  | infinity => .ok .infinity
  | first x y => .ok (.affine x y)
  | second .. => .error .wrongShape

/-- The sum of two points of one group. -/
def add : AnyPoint → AnyPoint → Except Failure AnyPoint
  | infinity, q => .ok q
  | p, infinity => .ok p
  | first x y, first x' y' => .ok (ofFirst (Point.add (.affine x y) (.affine x' y')))
  | second x y, second x' y' => .ok (ofSecond (Point.add (.affine x y) (.affine x' y')))
  | _, _ => .error .wrongShape

/-- The negative of a point. -/
def neg : AnyPoint → AnyPoint
  | infinity => infinity
  | first x y => ofFirst (Point.affine x y).neg
  | second x y => ofSecond (Point.affine x y).neg

/-- The multiple of a point by a natural number. -/
def nsmul (n : Nat) : AnyPoint → AnyPoint
  | infinity => infinity
  | first x y => ofFirst ((Point.affine x y).nsmul n)
  | second x y => ofSecond ((Point.affine x y).nsmul n)

/-- The pairing of two points, of which the first has to belong to the second group. Infinity
pairs with everything, and the first point is looked at before the second. -/
def pair : AnyPoint → AnyPoint → Except Failure Fq12
  | infinity, _ => .ok 1
  | _, infinity => .ok 1
  | second x y, first x' y' => PairingGroups.atePairing (.affine x y) (.affine x' y')
  | second x y, second _ _ =>
    if Pairing.onCurve Pairing.twistConstant (.affine x y) then .error .wrongShape
    else .error .secondPointOffCurve
  | first .., _ => .error .wrongShape

theorem add_ofFirst (p q : G1Point) : (ofFirst p).add (ofFirst q) = .ok (ofFirst (p.add q)) := by
  cases p <;> cases q <;> rfl

theorem pair_ofSecond_ofFirst (q : G2Point) (p : G1Point) :
    (ofSecond q).pair (ofFirst p) = PairingGroups.atePairing q p := by
  cases q <;> cases p <;> rfl

/-- Whether an opening shows that the committed polynomial has a value at a point. -/
def verify (commitment opening : AnyPoint) (point value : Scalar) (powers2 : List G2Point) :
    Except Failure Bool :=
  match powers2 with
  | base :: tau :: _ => do
    let shifted := tau.add (PairingGroups.multiple2 point base).neg
    let claimed := PairingGroups.multiple1 value PairingGroups.generator1
    let reduced ← commitment.add (ofFirst claimed.neg)
    let left ← (ofSecond base).pair reduced
    let right ← (ofSecond shifted).pair opening
    pure (decide (left = right))
  | _ => .error .pastTheEnd

/-- Points of the first group are verified as commitments and openings are. -/
theorem verify_ofFirst (commitment opening : G1Point) (point value : Scalar)
    (powers2 : List G2Point) :
    (ofFirst commitment).verify (ofFirst opening) point value powers2 =
      Kzg.verify .bn254 commitment opening point value powers2 := by
  match powers2 with
  | [] | [_] => rfl
  | base :: tau :: _ =>
    simp only [verify, add_ofFirst, pair_ofSecond_ofFirst, bind, Except.bind]
    rfl

end AnyPoint

end LiabilityProof
