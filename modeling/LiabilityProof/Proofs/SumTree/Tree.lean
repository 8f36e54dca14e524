import LiabilityProof.Proofs.SumTree.Run

/-!
# Sum trees of any shape

A sum tree has a user at every leaf, and two trees below every other node. Its nodes are computed
from the leaves up. A place in a tree leads from its root down to the tree that stands there;
taken the other way round it is a path up, with a sibling at every step.

The steps of a place lead from the node at the place to the root (`Place.fst_climb_steps`), so the
proof that they make at a leaf is accepted. The balance of every node is the sum of the balances
below it in the field, however large they are (`proof_verifies_and_balance_conserved`).
-/

namespace LiabilityProof

open scoped Residue

theorem Scalar.encode_add (m n : Nat) : encode (m + n) = encode m + encode n := by
  apply Residue.ext
  rw [Residue.val_add]
  exact Nat.add_mod m n groupOrder

/-! ### Proofs made of steps -/

namespace MerkleProof

/-- The proof that a leaf and the steps from there make for a root. -/
def ofSteps (e : Entry) (rootHash : Scalar) (steps : List Step) : MerkleProof where
  claimant := .entry e
  rootHash := .scalar rootHash
  siblingHashes := steps.map fun s => .scalar s.sibling.hash
  siblingSums := steps.map fun s => .scalar s.sibling.balance
  pathIndices := steps.map fun s => .integer (if s.isRight then 1 else 0)

theorem mapM_side?_map (steps : List Step) :
    (steps.map fun s => Datum.integer (if s.isRight then 1 else 0)).mapM side? =
      some (steps.map Step.isRight) := by
  induction steps with
  | nil => rfl
  | cons s steps ih =>
    have hside : side? (.integer (if s.isRight then 1 else 0)) = some s.isRight := by
      cases s.isRight <;> rfl
    rw [List.map_cons, List.mapM_cons, hside, ih]
    rfl

theorem stepsOf_map (steps : List Step) :
    stepsOf (steps.map fun s => .scalar s.sibling.hash)
      (steps.map fun s => .scalar s.sibling.balance) (steps.map Step.isRight) = .ok steps := by
  induction steps with
  | nil => rfl
  | cons s steps ih =>
    rw [List.map_cons, List.map_cons, List.map_cons, stepsOf, ih]
    rfl

/-- Such a proof is read as what it was made of. -/
theorem reads_ofSteps (name : String) (balance : Nat) (rootHash : Scalar) (steps : List Step) :
    (ofSteps ⟨.text name, [balance]⟩ rootHash steps).Reads
      ⟨Scalar.encode (Entry.identityOf name), Scalar.encode balance, steps⟩ where
  claimant := ⟨_, _, _, rfl, rfl, rfl, rfl, rfl⟩
  steps := by
    refine ⟨steps.map Step.isRight, ?_, stepsOf_map steps⟩
    rw [sides?, if_pos (by simp [ofSteps, depth])]
    exact mapM_side?_map steps

end MerkleProof

/-! ### Trees and places -/

/-- A sum tree, of any shape. -/
inductive SumTree where
  /-- The leaf of a user with a name and a balance. -/
  | leaf (name : String) (balance : Nat)
  /-- Two trees side by side. -/
  | fork (left right : SumTree)

namespace SumTree

/-- The node at the root. -/
def root : SumTree → Node
  | leaf name balance => .ofPair (Scalar.encode (Entry.identityOf name)) (Scalar.encode balance)
  | fork left right => left.root.join right.root

/-- The node at the root, computed from the entries at the leaves. -/
def build : SumTree → Except Failure Node
  | leaf name balance => Node.leaf ⟨.text name, [balance]⟩
  | fork left right => do
    let l ← left.build
    let r ← right.build
    pure (l.join r)

/-- The balances of the leaves, from left to right. -/
def balances : SumTree → List Nat
  | leaf _ balance => [balance]
  | fork left right => left.balances ++ right.balances

/-- The places of a tree, each with the tree that stands there. -/
inductive Place : SumTree → SumTree → Type
  | here (t : SumTree) : Place t t
  | left {l r t : SumTree} (p : Place l t) : Place (fork l r) t
  | right {l r t : SumTree} (p : Place r t) : Place (fork l r) t

namespace Place

/-- The steps from a place up to the root. -/
def steps : {t u : SumTree} → Place t u → List MerkleProof.Step
  | _, _, here _ => []
  | fork _ r, _, left p => p.steps ++ [⟨r.root, false⟩]
  | fork l _, _, right p => p.steps ++ [⟨l.root, true⟩]

/-- The proof of the leaf at a place. -/
def proof {t : SumTree} {name : String} {balance : Nat} (p : Place t (leaf name balance)) :
    MerkleProof :=
  .ofSteps ⟨.text name, [balance]⟩ t.root.hash p.steps

/-- The steps of a place lead up to the root. -/
theorem fst_climb_steps {t u : SumTree} (p : Place t u) :
    (MerkleProof.climb u.root p.steps).1 = t.root := by
  induction p with
  | here t => rfl
  | left p ih =>
    rw [steps, MerkleProof.climb_append_singleton, ih]
    rfl
  | right p ih =>
    rw [steps, MerkleProof.climb_append_singleton, ih]
    rfl

end Place

/-! ### Nodes -/

theorem build_eq_ok (t : SumTree) : t.build = .ok t.root := by
  induction t with
  | leaf name balance => rfl
  | fork left right ihl ihr =>
    rw [build, ihl, ihr]
    rfl

/-- The balance of the root is the sum of all balances, reduced once. -/
theorem balance_root (t : SumTree) : t.root.balance = Scalar.encode t.balances.sum := by
  induction t with
  | leaf name balance => rw [balances, List.sum_singleton]; rfl
  | fork left right ihl ihr =>
    rw [balances, List.sum_append, Scalar.encode_add, ← ihl, ← ihr]
    rfl

/-- In a tree of any shape, every leaf has an accepted proof for the root, made of the siblings on
its way up, and every node has the sum of the balances below it. -/
theorem proof_verifies_and_balance_conserved (t : SumTree) :
    (∀ (name : String) (balance : Nat) (p : Place t (leaf name balance)),
        p.proof.verify = true) ∧
      ∀ (u : SumTree) (_ : Place t u),
        u.build = .ok u.root ∧ u.root.balance = Scalar.encode u.balances.sum := by
  refine ⟨fun name balance p => ?_, fun u _ => ⟨u.build_eq_ok, u.balance_root⟩⟩
  refine MerkleProof.verify_eq_true_iff.mpr ⟨_, MerkleProof.reads_ofSteps .., ?_⟩
  rw [MerkleProof.Reading.running_zero]
  exact congrArg (Except.ok ·.hash) p.fst_climb_steps.symm

end SumTree

end LiabilityProof
