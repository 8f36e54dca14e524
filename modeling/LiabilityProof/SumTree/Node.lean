import LiabilityProof.Ledger.Entry
import LiabilityProof.Hash.Sha256

/-!
# Nodes of a sum tree

A node holds a hash and a balance, both field elements. A leaf hashes an identity and a balance;
an inner node hashes the hashes of its children and the sum of their balances, which is its own
balance. Balances add up in the field.

`hashToField` writes field elements as 32 bytes each and reduces the SHA-256 of the result.
-/

namespace LiabilityProof

/-- The hash of field elements into the field. -/
def hashToField (values : List Scalar) : Scalar :=
  let bytes := values.flatMap fun v => Text.bigEndian Scalar.byteWidth v.val
  Scalar.encode (Text.ofBigEndian (Sha256.hash bytes))

/-- A node of a sum tree. -/
structure Node where
  /-- The hash of what stands below. -/
  hash : Scalar
  /-- The sum of the balances below. -/
  balance : Scalar
deriving DecidableEq

namespace Node

/-- The node of a hash and a balance that are not trusted. -/
def ofData (hash balance : Datum) : Except Failure Node := do
  let hash ← hash.canonical
  let balance ← balance.canonical
  pure ⟨hash, balance⟩

/-- The leaf of an identity and a balance. -/
def ofPair (identity balance : Scalar) : Node :=
  ⟨hashToField [identity, balance], balance⟩

/-- The leaf of an entry, which has to have one currency. -/
def leaf (e : Entry) : Except Failure Node := do
  let balance ← e.balance
  let identity ← e.identity
  pure (ofPair (Scalar.encode identity) (Scalar.encode balance))

/-- The node above two. -/
def join (left right : Node) : Node :=
  let balance := left.balance + right.balance
  ⟨hashToField [left.hash, right.hash, balance], balance⟩

/-- How messages show a node. -/
def shown (n : Node) : String :=
  "Node(hash=" ++ Text.ofNat n.hash.val ++ ", balance=" ++ Text.ofNat n.balance.val ++ ")"

end Node

end LiabilityProof
