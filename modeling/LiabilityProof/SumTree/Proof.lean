import LiabilityProof.SumTree.Node

/-!
# Inclusion proofs of a sum tree

A proof names an entry, the root it claims to lie under, and at each level the hash and balance
of the sibling and the side on which the proven node stands: zero for the left, one for the
right. Proofs come from outside, so every field is an untrusted value.

`MerkleProof.verify` recomputes the nodes from the leaf to the root. It answers for every proof:
a proof whose sequences differ in length, whose sides are not zero or one, or whose values are
not field elements in canonical form is not accepted. `MerkleProof.verdict` is what a caller
sees: it takes failures of some kinds for a refusal and hands on any other.
-/

namespace LiabilityProof

/-- What a proof offers as its entry. -/
inductive Claimant where
  /-- An entry. -/
  | entry (e : Entry)
  /-- An entry whose name is no text. -/
  | broken (name : Text.Broken) (balances : List Nat)
  /-- A value that is no entry. -/
  | other (d : Datum)

/-- An inclusion proof, nothing of it checked. -/
structure MerkleProof where
  /-- The entry. -/
  claimant : Claimant
  /-- The hash of the root. -/
  rootHash : Datum
  /-- The hashes of the siblings, from the leaf up. -/
  siblingHashes : List Datum
  /-- The balances of the siblings, from the leaf up. -/
  siblingSums : List Datum
  /-- The sides of the proven nodes, from the leaf up. -/
  pathIndices : List Datum

namespace MerkleProof

/-- The proof of untrusted values, of which the last three have to be sequences. -/
def ofData (claimant : Claimant) (rootHash siblingHashes siblingSums pathIndices : Datum) :
    Except Failure MerkleProof := do
  let hashes ← siblingHashes.elements
  let sums ← siblingSums.elements
  let sides ← pathIndices.elements
  pure ⟨claimant, rootHash, hashes, sums, sides⟩

/-- The number of levels between the leaf and the root. -/
def depth (p : MerkleProof) : Nat := p.siblingHashes.length

/-- The side that a value names: whether the proven node is the right child. -/
def side? : Datum → Option Bool
  | .integer 0 => some false
  | .integer 1 => some true
  | _ => none

/-- The sides of a proof, if all are sides and the three sequences have one length. -/
def sides? (p : MerkleProof) : Option (List Bool) :=
  if p.siblingSums.length = p.depth ∧ p.pathIndices.length = p.depth then
    p.pathIndices.mapM side?
  else none

/-- The entry of a proof, if it is one with a name that can be hashed. The balance is asked for
before the name. -/
def entry (p : MerkleProof) : Except Failure Entry :=
  match p.claimant with
  | .entry e => .ok e
  | .broken name balances => do
    let _ ← Entry.onlyBalance balances
    .error (.brokenText name)
  | .other _ => .error .noSuchProperty

/-- A step up: the sibling, and whether the node stands to its right. -/
structure Step where
  /-- The sibling. -/
  sibling : Node
  /-- Whether the proven node is the right child. -/
  isRight : Bool

/-- The node above a node. -/
def Step.up (s : Step) (n : Node) : Node :=
  if s.isRight then Node.join s.sibling n else Node.join n s.sibling

/-- The steps of three sequences of one length. -/
def stepsOf : List Datum → List Datum → List Bool → Except Failure (List Step)
  | h :: hs, s :: ss, right :: rest => do
    let sibling ← Node.ofData h s
    let steps ← stepsOf hs ss rest
    pure (⟨sibling, right⟩ :: steps)
  | _, _, _ => .ok []

/-- The node and the balance after the steps, from the leaf's on. -/
def climb (leaf : Node) (steps : List Step) : Node × Scalar :=
  steps.foldl (fun (n, b) s => (s.up n, b + s.sibling.balance)) (leaf, leaf.balance)

/-- Whether the recomputed root has the claimed hash and the balance that was added up on the
way, or the reason why nothing can be recomputed. -/
def check (p : MerkleProof) : Except Failure Bool :=
  match p.sides? with
  | none => .ok false
  | some sides => do
    let entry ← p.entry
    let leaf ← Node.leaf entry
    let steps ← stepsOf p.siblingHashes p.siblingSums sides
    let root ← p.rootHash.canonical
    let (node, balance) := climb leaf steps
    pure (decide (root = node.hash) && decide (balance = node.balance))

/-- Whether a proof is accepted. -/
def verify (p : MerkleProof) : Bool :=
  match p.check with
  | .ok accepted => accepted
  | .error _ => false

/-- Whether a failure of some kind counts as a refusal: the kinds of the library's own, and what
is wrong with a value, be it its content, its shape or a property that it lacks. -/
def isRefusal : FailureKind → Bool
  | .configuration | .outOfRange | .selfCheck | .dispatch => true
  | .value | .json | .encoding | .label => true
  | .shape | .property => true
  | _ => false

/-- The answer to a caller. A failure that is no refusal is handed on. -/
def verdict (p : MerkleProof) : Except Failure Bool :=
  match p.check with
  | .ok accepted => .ok accepted
  | .error failure => if isRefusal failure.kind then .ok false else .error failure

end MerkleProof

end LiabilityProof
