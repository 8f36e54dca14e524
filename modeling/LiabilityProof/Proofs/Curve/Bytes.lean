import LiabilityProof.Curve.Bytes
import LiabilityProof.Proofs.Outcome
import LiabilityProof.Proofs.Text.BigEndian

/-!
# Points survive their bytes

Every point but the pair of two zeros, which would be taken for the point at infinity, is read
back from its bytes. As all points have as many bytes, the bytes of several points can be cut
apart again. Conversely 64 bytes are the bytes of the point that they are read as exactly if both
coordinates stand in them reduced (`G1.toBytes_faithful`).
-/

namespace LiabilityProof

namespace G1

theorem length_toBytes (P : G1Point) : (toBytes P).length = byteLength := by
  cases P with
  | infinity => rw [toBytes, List.length_replicate]
  | affine x y =>
    rw [toBytes, List.length_append, Text.length_bigEndian, Text.length_bigEndian]
    rfl

/-- There is room for a coordinate. -/
theorem coordinateModulus_le : coordinateModulus ≤ 256 ^ Scalar.byteWidth := by decide

theorem ofBigEndian_val (x : Fq) :
    Text.ofBigEndian (Text.bigEndian Scalar.byteWidth x.val) = x.val := by
  rw [Text.ofBigEndian_bigEndian, Nat.mod_eq_of_lt (Nat.lt_of_lt_of_le x.isLt coordinateModulus_le)]

/-- Only two zeros have the bytes of the point at infinity. -/
theorem eq_zero_of_toBytes {x y : Fq} (h : toBytes (.affine x y) = List.replicate byteLength 0) :
    x = 0 ∧ y = 0 := by
  have hsplit : List.replicate byteLength (0 : UInt8) =
      List.replicate Scalar.byteWidth 0 ++ List.replicate Scalar.byteWidth 0 := rfl
  rw [toBytes, hsplit] at h
  obtain ⟨hx, hy⟩ := List.append_inj h (by simp)
  constructor
  · apply Residue.ext
    rw [← ofBigEndian_val x, hx, Text.ofBigEndian_replicate_zero]
    rfl
  · apply Residue.ext
    rw [← ofBigEndian_val y, hy, Text.ofBigEndian_replicate_zero]
    rfl

/-- The bytes of a point are read as this point. -/
theorem ofBytes_toBytes {P : G1Point} (hP : P ≠ .affine 0 0) : ofBytes (toBytes P) = .ok P := by
  rw [ofBytes, if_neg (by rw [length_toBytes]; exact not_not_intro rfl)]
  cases P with
  | infinity => exact if_pos rfl
  | affine x y =>
    have hne : toBytes (.affine x y) ≠ List.replicate byteLength 0 := by
      intro h
      obtain ⟨rfl, rfl⟩ := eq_zero_of_toBytes h
      exact hP rfl
    rw [if_neg hne, toBytes, List.take_left' (Text.length_bigEndian _ _),
      List.drop_left' (Text.length_bigEndian _ _), ofBigEndian_val, ofBigEndian_val,
      Residue.ofNat_val, Residue.ofNat_val]

/-! ### Bytes that are read -/

/-- What is written of the point that bytes are read as: both coordinates, reduced. -/
theorem map_toBytes_ofBytes {bytes : List UInt8} (h : bytes.length = byteLength) :
    (ofBytes bytes).map toBytes =
      .ok (Text.bigEndian Scalar.byteWidth
          (Text.ofBigEndian (bytes.take Scalar.byteWidth) % coordinateModulus) ++
        Text.bigEndian Scalar.byteWidth
          (Text.ofBigEndian (bytes.drop Scalar.byteWidth) % coordinateModulus)) := by
  rw [ofBytes, if_neg (not_not_intro h)]
  split
  next hzero =>
    subst hzero
    rfl
  next => rfl

/-- Half of the bytes of a point are written of the least member of their class only if they write
this member. -/
theorem bigEndian_mod_eq_iff {half : List UInt8} (h : half.length = Scalar.byteWidth) :
    Text.bigEndian Scalar.byteWidth (Text.ofBigEndian half % coordinateModulus) = half ↔
      Text.ofBigEndian half < coordinateModulus := by
  have hpos : 0 < coordinateModulus := by decide
  constructor
  · intro heq
    have hlt := Nat.mod_lt (Text.ofBigEndian half) hpos
    rw [← heq, Text.ofBigEndian_bigEndian, Nat.mod_eq_of_lt (hlt.trans_le coordinateModulus_le)]
    exact hlt
  · intro hlt
    rw [Nat.mod_eq_of_lt hlt, Text.bigEndian_ofBigEndian h]

/-- Bytes are those of the point that they are read as exactly if both coordinates are reduced. -/
theorem map_toBytes_ofBytes_eq_iff {bytes : List UInt8} (h : bytes.length = byteLength) :
    (ofBytes bytes).map toBytes = .ok bytes ↔
      Text.ofBigEndian (bytes.take Scalar.byteWidth) < coordinateModulus ∧
        Text.ofBigEndian (bytes.drop Scalar.byteWidth) < coordinateModulus := by
  have htake : (bytes.take Scalar.byteWidth).length = Scalar.byteWidth := by
    rw [List.length_take, h]
    rfl
  have hdrop : (bytes.drop Scalar.byteWidth).length = Scalar.byteWidth := by
    rw [List.length_drop, h]
    rfl
  rw [map_toBytes_ofBytes h, Except.ok.injEq, ← bigEndian_mod_eq_iff htake,
    ← bigEndian_mod_eq_iff hdrop]
  nth_rewrite 3 [← List.take_append_drop Scalar.byteWidth bytes]
  exact List.append_eq_append_iff_of_size_eq_left (by rw [Text.length_bigEndian, htake])

/-! ### Several points -/

/-- The bytes of the point of index `j` among the bytes of several points. -/
def piece (bytes : List UInt8) (j : Nat) : List UInt8 :=
  (bytes.drop (byteLength * j)).take byteLength

theorem length_flatten_toBytes (points : List G1Point) :
    (points.map toBytes).flatten.length = byteLength * points.length := by
  induction points with
  | nil => rfl
  | cons P points ih =>
    rw [List.map_cons, List.flatten_cons, List.length_append, length_toBytes, ih,
      List.length_cons, Nat.mul_succ, Nat.add_comm]

/-- The bytes of several points are the pieces of the concatenation. -/
theorem piece_flatten_toBytes {points : List G1Point} {j : Nat} {P : G1Point}
    (h : points[j]? = some P) : piece (points.map toBytes).flatten j = toBytes P := by
  induction points generalizing j with
  | nil => simp at h
  | cons Q points ih =>
    rw [piece, List.map_cons, List.flatten_cons]
    cases j with
    | zero =>
      obtain rfl : Q = P := Option.some.inj h
      rw [Nat.mul_zero, List.drop_zero, List.take_left' (length_toBytes Q)]
    | succ j =>
      rw [Nat.mul_succ, Nat.add_comm, ← List.drop_drop, List.drop_left' (length_toBytes Q)]
      exact ih h

/-- Bytes cut into pieces of the length of a point, of which the last may be shorter. -/
def pieces (bytes : List UInt8) : List (List UInt8) :=
  (List.range ((bytes.length + byteLength - 1) / byteLength)).map (piece bytes)

theorem pieces_flatten_toBytes (points : List G1Point) :
    pieces (points.map toBytes).flatten = points.map toBytes := by
  have hcount : ((points.map toBytes).flatten.length + byteLength - 1) / byteLength =
      points.length := by
    have hwidth : byteLength = 64 := rfl
    rw [length_flatten_toBytes, hwidth]
    omega
  rw [pieces, hcount]
  refine List.ext_getElem (by simp) fun j hj _ => ?_
  rw [List.length_map, List.length_range] at hj
  rw [List.getElem_map, List.getElem_range, List.getElem_map]
  exact piece_flatten_toBytes (List.getElem?_eq_getElem hj)

/-- Points other than the pair of two zeros are read back from their bytes, and so are any number
of them from the pieces of all their bytes. Of 64 bytes, those are written of the point that they
are read as whose coordinates are reduced; other lengths are refused. -/
theorem toBytes_faithful :
    (∀ P : G1Point, P ≠ .affine 0 0 → (toBytes P).length = 64 ∧ ofBytes (toBytes P) = .ok P) ∧
      (∀ points : List G1Point, (∀ P ∈ points, P ≠ .affine 0 0) →
        (pieces (points.map toBytes).flatten).mapM ofBytes = .ok points) ∧
      (∀ bytes : List UInt8, bytes.length = 64 →
        ((ofBytes bytes).map toBytes = .ok bytes ↔
          Text.ofBigEndian (bytes.take 32) < coordinateModulus ∧
            Text.ofBigEndian (bytes.drop 32) < coordinateModulus)) ∧
      ∀ bytes : List UInt8, bytes.length ≠ 64 →
        ofBytes bytes = .error (.pointWidth bytes.length) ∧
          (Failure.pointWidth bytes.length).kind = .value := by
  refine ⟨fun P hP => ⟨length_toBytes P, ofBytes_toBytes hP⟩, fun points hpoints => ?_,
    fun bytes h => map_toBytes_ofBytes_eq_iff h, fun bytes h => ⟨if_pos h, rfl⟩⟩
  rw [pieces_flatten_toBytes]
  exact mapM_map_eq_ok fun P hP => ofBytes_toBytes (hpoints P hP)

/-- Bytes whose first half writes the modulus are read as a point, and written of no point. -/
theorem toBytes_faithful_modulus :
    (pieces ([Point.infinity, .affine (Residue.ofNat 1) (Residue.ofNat 2)].map toBytes).flatten).mapM
        ofBytes = .ok [Point.infinity, .affine (Residue.ofNat 1) (Residue.ofNat 2)] ∧
      ¬(ofBytes (Text.bigEndian 32 coordinateModulus ++ Text.bigEndian 32 2)).map toBytes =
        .ok (Text.bigEndian 32 coordinateModulus ++ Text.bigEndian 32 2) := by
  refine ⟨toBytes_faithful.2.1 _ (by decide), fun h => ?_⟩
  have hreduced := (toBytes_faithful.2.2.1 _ (by decide)).mp h
  exact absurd hreduced (by decide)

end G1

end LiabilityProof
