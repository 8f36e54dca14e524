import LiabilityProof.Wire.Integer
import LiabilityProof.Curve.Bytes

/-!
# Field elements, points and bytes in documents

Field elements and coordinates are written as decimal texts, a point as the pair of its
coordinates, a point of the second group as a pair of pairs, and the point at infinity as
nothing. Bytes are a hexadecimal text, and so are numbers of 256 bits. Reading a field element
asks for its canonical form; coordinates are reduced.
-/

namespace LiabilityProof

namespace Wire

/-- A natural number as a decimal text. -/
def decimal (n : Nat) : Datum := .text (Text.ofNat n)

/-- An integer as a decimal text. One of too many digits has none. -/
def ofInteger (n : Int) : Except Failure Datum :=
  if Text.isTooLong n then .error .numeralTooLong else .ok (.text (Text.ofInt n))

/-- A field element as a decimal text. -/
def ofScalar (a : Scalar) : Datum := decimal a.val

/-- The field element that a value writes. -/
def scalar (d : Datum) : Except Failure Scalar := do
  let n ← d.unsigned
  (Datum.integer n).canonical

/-- A point of the first group. -/
def ofG1 : G1Point → Datum
  | .infinity => .null
  | .affine x y => .array [decimal x.val, decimal y.val]

/-- The coordinate that a value writes. -/
def coordinate (d : Datum) : Except Failure Fq :=
  d.unsigned.map Residue.ofNat

/-- The pair of coordinates that a value writes. -/
def pair (d : Datum) : Except Failure (Fq × Fq) := do
  let x ← (← d.item 0) |> coordinate
  let y ← (← d.item 1) |> coordinate
  pure (x, y)

/-- The point of the first group that a value writes. -/
def g1 : Datum → Except Failure G1Point
  | .null => .ok .infinity
  | d => (pair d).map fun (x, y) => .affine x y

/-- An element of the quadratic extension. -/
def ofFq2 (a : Fq2) : Datum := .array [decimal a.re.val, decimal a.im.val]

/-- A point of the second group. -/
def ofG2 : G2Point → Datum
  | .infinity => .null
  | .affine x y => .array [ofFq2 x, ofFq2 y]

/-- The element of the quadratic extension that a value writes. -/
def fq2 (d : Datum) : Except Failure Fq2 :=
  (pair d).map fun (re, im) => ⟨re, im⟩

/-- The point of the second group that a value writes. -/
def g2 : Datum → Except Failure G2Point
  | .null => .ok .infinity
  | d => do
    let x ← (← d.item 0) |> fq2
    let y ← (← d.item 1) |> fq2
    pure (.affine x y)

/-- Bytes as a hexadecimal text. -/
def ofBytes (bytes : List UInt8) : Datum := .text (Text.ofBytes bytes)

/-- The bytes that a hexadecimal text without mark writes. -/
def hexBytes (s : String) : Except Failure (List UInt8) :=
  (Text.readHex s.toList).mapError .notHexadecimal

/-- The bytes that a value writes. -/
def bytes : Datum → Except Failure (List UInt8)
  | .text s => (Text.readHex (Text.dropMark s.toList)).mapError .notHexadecimal
  | _ => .error .noSuchProperty

/-- An integer of 256 bits as a hexadecimal text of 32 bytes. -/
def ofWord (n : Int) : Except Failure Datum :=
  if 0 ≤ n ∧ n.toNat < Nat.pow 2 256 then .ok (ofBytes (Text.bigEndian 32 n.toNat))
  else .error .tooWide

/-- The integer that a value writes in base sixteen. -/
def word : Datum → Except Failure Int
  | .text s => (Text.readInteger 16 s).mapError .numeral
  | _ => .error .wrongShape

end Wire

end LiabilityProof
