import LiabilityProof.Wire.Field

/-!
# Inclusion proofs of a committed ledger

The proof of a user's inclusion is the bytes of one opening for each column, in the order of the
columns, with a list of public inputs that is empty in the proofs made here. In a document the
public inputs are numbers of 256 bits.
-/

namespace LiabilityProof

/-- The proof that a user's row is part of a committed ledger. -/
structure InclusionProof where
  /-- The openings' bytes, column after column. -/
  calldata : List UInt8
  /-- The public inputs. -/
  publicInputs : List Int
deriving DecidableEq

namespace InclusionProof

/-- The proof of bytes and untrusted public inputs. -/
def ofData (calldata : List UInt8) (inputs : List Datum) : Except Failure InclusionProof :=
  (inputs.mapM Datum.toInteger).map fun ns => ⟨calldata, ns⟩

/-- How messages show a proof. An input of too many digits cannot be shown. -/
def shown (p : InclusionProof) : Except Failure String :=
  if p.publicInputs.any Text.isTooLong then
    .error .numeralTooLong
  else
    .ok ("KZGInclusionProof(public_inputs=" ++
      (Datum.array (p.publicInputs.map .integer)).shown ++
      ", proof_calldata=" ++ Text.ofBytes p.calldata ++ ")")

end InclusionProof

namespace Wire

/-- An inclusion proof as an object. -/
def ofInclusionProof (p : InclusionProof) : Except Failure Datum := do
  let inputs ← p.publicInputs.mapM ofWord
  pure (.object [("public_inputs", .array inputs), ("proof_calldata", ofBytes p.calldata)])

/-- The inclusion proof that a value writes. -/
def inclusionProof (d : Datum) : Except Failure InclusionProof := do
  let calldata ← (← d.field "proof_calldata") |> bytes
  let items ← (← d.field "public_inputs").elements
  let inputs ← items.mapM word
  pure ⟨calldata, inputs⟩

end Wire

end LiabilityProof
