import LiabilityProof.Wire.Entry
import LiabilityProof.SumTree.Proof

/-!
# Sum tree proofs in documents

A proof is an object of its entry, its root, and the three sequences. When it is read, every hash
and every balance of a sibling has to be a field element in canonical form and every side a
natural number; that the sides are zero or one is left to the verifier.
-/

namespace LiabilityProof

namespace Wire

/-- The field element written for a field of a proof. -/
def ofProofField (d : Datum) : Except Failure Datum := do
  ofInteger (← d.toInteger)

/-- A proof as an object. -/
def ofMerkleProof (p : MerkleProof) : Except Failure Datum := do
  let e ← (← p.entry) |> ofEntryChecked
  let rootHash ← ofProofField p.rootHash
  let hashes ← p.siblingHashes.mapM ofProofField
  let sums ← p.siblingSums.mapM ofProofField
  let sides ← p.pathIndices.mapM Datum.toInteger
  pure (.object
    [("entry", e),
     ("root_hash", rootHash),
     ("sibling_hashes", .array hashes),
     ("sibling_sums", .array sums),
     ("path_indices", .array (sides.map .integer))])

/-- The field elements that a sequence writes. -/
def scalars (d : Datum) : Except Failure (List Datum) := do
  let items ← d.elements
  items.mapM fun d => (scalar d).map Datum.scalar

/-- The sides that a sequence writes. -/
def sides (d : Datum) : Except Failure (List Datum) := do
  let items ← d.elements
  items.mapM fun d => d.unsigned.map fun (n : Nat) => Datum.integer n

/-- The proof that a value writes. -/
def merkleProof (d : Datum) : Except Failure MerkleProof := do
  let e ← (← d.field "entry") |> entry
  let rootHash ← (← d.field "root_hash") |> scalar
  let siblingHashes ← (← d.field "sibling_hashes") |> scalars
  let siblingSums ← (← d.field "sibling_sums") |> scalars
  let pathIndices ← (← d.field "path_indices") |> sides
  pure ⟨.entry e, .scalar rootHash, siblingHashes, siblingSums, pathIndices⟩

end Wire

end LiabilityProof
