import LiabilityProof.Curve.Jacobian
import LiabilityProof.Curve.Pairing
import LiabilityProof.Failure

/-!
# The pairing groups

The commitment scheme needs two groups of one order and a pairing of them into a third. A
`PairingGroups` gathers these operations, so that everything built on them is defined for any
such groups and its theorems can be stated under the laws of a pairing.

`bn254` is the pair of curves the library runs on.
-/

namespace LiabilityProof

/-- A generator and the operations of a group of points. -/
structure PointGroup (P : Type) where
  /-- The generator. -/
  generator : P
  /-- The sum. -/
  add : P → P → P
  /-- The negative. -/
  neg : P → P
  /-- The multiple by a field element. -/
  mul : Scalar → P → P

/-- Two groups of points with a pairing of them. -/
structure PairingGroups where
  /-- The group of commitments and openings. -/
  first : PointGroup G1Point
  /-- The group of the verifying key. -/
  second : PointGroup G2Point
  /-- The values of the pairing. -/
  Target : Type
  /-- Values of the pairing can be compared. -/
  decEqTarget : DecidableEq Target
  /-- The pairing; it may refuse points that do not belong to the groups. -/
  pair : G2Point → G1Point → Except Failure Target

namespace PairingGroups

/-- The generator of the first group. -/
def generator1 : G1Point := .affine (Residue.ofNat 1) (Residue.ofNat 2)

/-- The generator of the second group. -/
def generator2 : G2Point :=
  .affine
    ⟨Residue.ofNat
      10857046999023057135944570762232829481370756359578518086990519993285655852781,
     Residue.ofNat
      11559732032986387107991004021392285783925812861821192530917403151452391805634⟩
    ⟨Residue.ofNat
      8495653923123431417604973247489272438418190587263600148770280649306958101930,
     Residue.ofNat
      4082367875863433681332203403145435568316851327593401208105741076214120093531⟩

/-- The pairing of two points. The point at infinity pairs to one with everything, and points off
their curves are refused, those of the second group first. -/
def atePairing : G2Point → G1Point → Except Failure Fq12
  | .infinity, _ => .ok 1
  | _, .infinity => .ok 1
  | q, .affine x y =>
    if Pairing.onCurve Pairing.twistConstant q = false then .error .secondPointOffCurve
    else if Pairing.onCurve Pairing.curveConstant (.affine x y) = false then
      .error .firstPointOffCurve
    else .ok (Pairing.finalPower groupOrder (Pairing.millerLoop q x y))

/-- Multiples of points of the first group. -/
def multiple1 (k : Scalar) (p : G1Point) : G1Point := p.nsmul k.val

/-- Multiples of points of the second group. -/
def multiple2 (k : Scalar) (p : G2Point) : G2Point := p.nsmul k.val

/-- The curve with a 254-bit base field and embedding degree twelve. -/
def bn254 : PairingGroups where
  first := ⟨generator1, Point.add, Point.neg, multiple1⟩
  second := ⟨generator2, Point.add, Point.neg, multiple2⟩
  Target := Fq12
  decEqTarget := inferInstance
  pair := atePairing

end PairingGroups

end LiabilityProof
