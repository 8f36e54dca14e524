import LiabilityProof.Proofs.Field.Ring
import LiabilityProof.Proofs.Outcome
import LiabilityProof.SumTree.Proof

/-!
# What the verification of a proof computes

A proof that is accepted can be read: it has an identity, a balance and a list of steps
(`MerkleProof.Reads`). Levels are counted from the root. The node at a level is what the climb has
reached there, and it is the hash of a tuple, the *input* of the level, together with the last
member of this tuple: `[identity, balance]` at the leaf, and the two hashes and the sum above it.
-/

namespace LiabilityProof

open scoped Residue

namespace MerkleProof

/-- What is read from a proof. -/
structure Reading where
  /-- The identity, in the field. -/
  identity : Scalar
  /-- The balance, in the field. -/
  balance : Scalar
  /-- The steps, from the leaf up. -/
  steps : List Step

/-- The tuple that is hashed to step up from a node. -/
def Step.input (s : Step) (n : Node) : List Scalar :=
  if s.isRight then [s.sibling.hash, n.hash, s.sibling.balance + n.balance]
  else [n.hash, s.sibling.hash, n.balance + s.sibling.balance]

/-- What a proof says, where it says something. -/
structure Reads (p : MerkleProof) (r : Reading) : Prop where
  /-- The entry has the identity and the balance. -/
  claimant : ∃ e identity balance, p.claimant = .entry e ∧ e.identity = .ok identity ∧
    e.balance = .ok balance ∧ r.identity = Scalar.encode identity ∧
    r.balance = Scalar.encode balance
  /-- The three sequences are those of the steps. -/
  steps : ∃ sides, p.sides? = some sides ∧
    stepsOf p.siblingHashes p.siblingSums sides = .ok r.steps

namespace Reading

variable (r : Reading)

/-- The number of steps. -/
def depth : Nat := r.steps.length

/-- The leaf. -/
def leaf : Node := .ofPair r.identity r.balance

/-- The step that leads up to a level, counted from the root. -/
def step? (l : Nat) : Option Step := r.steps.reverse[l]?

/-- The node and the balance that the climb has reached at a level. -/
def running (l : Nat) : Node × Scalar := climb r.leaf (r.steps.take (r.depth - l))

/-- The tuple that is hashed at a level. -/
def input (l : Nat) : List Scalar :=
  match r.step? l with
  | some s => s.input (r.running (l + 1)).1
  | none => [r.identity, r.balance]

end Reading

/-! ### Steps -/

theorem Step.hash_up (s : Step) (n : Node) : (s.up n).hash = hashToField (s.input n) := by
  rw [Step.up, Step.input]
  split <;> rfl

theorem Step.balance_up (s : Step) (n : Node) :
    (s.up n).balance = n.balance + s.sibling.balance := by
  rw [Step.up]
  split
  · exact add_comm _ _
  · rfl

theorem Step.getLast?_input (s : Step) (n : Node) :
    (s.input n).getLast? = some (s.up n).balance := by
  rw [Step.input, Step.up]
  split <;> rfl

theorem Step.length_input (s : Step) (n : Node) : (s.input n).length = 3 := by
  rw [Step.input]
  split <;> rfl

theorem climb_append_singleton (leaf : Node) (steps : List Step) (s : Step) :
    climb leaf (steps ++ [s]) =
      (s.up (climb leaf steps).1, (climb leaf steps).2 + s.sibling.balance) := by
  rw [climb, List.foldl_append]
  rfl

/-- The balance that is added up is that of the node. -/
theorem snd_climb (leaf : Node) (steps : List Step) :
    (climb leaf steps).2 = (climb leaf steps).1.balance := by
  induction steps using List.reverseRecOn with
  | nil => rfl
  | append_singleton steps s ih => rw [climb_append_singleton, Step.balance_up, ih]

/-! ### Levels -/

namespace Reading

variable {r : Reading} {l : Nat} {s : Step}

theorem step?_eq_none_iff : r.step? l = none ↔ r.depth ≤ l := by
  rw [step?, List.getElem?_eq_none_iff, List.length_reverse]
  rfl

theorem lt_depth (h : r.step? l = some s) : l < r.depth := by
  by_contra hle
  rw [step?_eq_none_iff.mpr (by omega)] at h
  exact absurd h (by simp)

/-- One level up from what has been reached. -/
theorem running_of_step (h : r.step? l = some s) :
    r.running l =
      (s.up (r.running (l + 1)).1, (r.running (l + 1)).2 + s.sibling.balance) := by
  have hl := lt_depth h
  -- the steps run from the leaf, and levels from the root
  have htake : r.steps.take (r.depth - l) = r.steps.take (r.depth - (l + 1)) ++ [s] := by
    have hindex : r.depth - l = r.depth - (l + 1) + 1 := by omega
    rw [step?, List.getElem?_reverse hl] at h
    rw [hindex, List.take_add_one]
    congr 1
    rw [show r.depth - (l + 1) = r.steps.length - 1 - l by rw [depth]; omega, h]
    rfl
  rw [running, htake, climb_append_singleton]
  rfl

theorem running_of_depth_le (h : r.depth ≤ l) : r.running l = (r.leaf, r.leaf.balance) := by
  rw [running, Nat.sub_eq_zero_of_le h]
  rfl

theorem snd_running (r : Reading) (l : Nat) : (r.running l).2 = (r.running l).1.balance :=
  snd_climb _ _

theorem input_of_step (h : r.step? l = some s) : r.input l = s.input (r.running (l + 1)).1 := by
  rw [input, h]

theorem input_of_depth_le (h : r.depth ≤ l) : r.input l = [r.identity, r.balance] := by
  rw [input, step?_eq_none_iff.mpr h]

/-- The node at a level is the hash of the input. -/
theorem hash_running (r : Reading) (l : Nat) :
    (r.running l).1.hash = hashToField (r.input l) := by
  cases h : r.step? l with
  | some s => rw [running_of_step h, input_of_step h, Step.hash_up]
  | none =>
    have hl := step?_eq_none_iff.mp h
    rw [running_of_depth_le hl, input_of_depth_le hl]
    rfl

/-- The balance at a level is the last member of the input. -/
theorem getLast?_input (r : Reading) (l : Nat) :
    (r.input l).getLast? = some (r.running l).1.balance := by
  cases h : r.step? l with
  | some s => rw [running_of_step h, input_of_step h, Step.getLast?_input]
  | none =>
    have hl := step?_eq_none_iff.mp h
    rw [running_of_depth_le hl, input_of_depth_le hl]
    rfl

end Reading

/-! ### Accepted proofs -/

theorem length_stepsOf {hashes sums : List Datum} {sides : List Bool} {steps : List Step}
    (hsums : sums.length = hashes.length) (hsides : sides.length = hashes.length)
    (h : stepsOf hashes sums sides = .ok steps) : steps.length = hashes.length := by
  induction hashes generalizing sums sides steps with
  | nil =>
    obtain rfl := List.eq_nil_of_length_eq_zero hsums
    obtain rfl := Except.ok.inj h
    rfl
  | cons hash hashes ih =>
    obtain ⟨sum, sums, rfl⟩ := List.exists_of_length_succ _ hsums
    obtain ⟨side, sides, rfl⟩ := List.exists_of_length_succ _ hsides
    simp only [stepsOf, bind_eq_ok_iff] at h
    obtain ⟨sibling, -, rest, hrest, h⟩ := h
    obtain rfl := Except.ok.inj h
    rw [List.length_cons, List.length_cons, ih (Nat.succ.inj hsums) (Nat.succ.inj hsides) hrest]

theorem length_of_mapM_side? {data : List Datum} {sides : List Bool}
    (h : data.mapM side? = some sides) : sides.length = data.length := by
  induction data generalizing sides with
  | nil =>
    obtain rfl := Option.some.inj h
    rfl
  | cons d data ih =>
    simp only [List.mapM_cons, Option.bind_eq_bind, Option.bind_eq_some_iff] at h
    obtain ⟨side, -, rest, hrest, h⟩ := h
    obtain rfl := Option.some.inj h
    rw [List.length_cons, List.length_cons, ih hrest]

theorem length_sides {p : MerkleProof} {sides : List Bool} (h : p.sides? = some sides) :
    p.siblingSums.length = p.depth ∧ sides.length = p.depth := by
  rw [sides?] at h
  split at h
  next hlengths => exact ⟨hlengths.1, (length_of_mapM_side? h).trans hlengths.2⟩
  next => exact absurd h (by simp)

/-- There are as many steps as levels. -/
theorem Reads.depth_eq {p : MerkleProof} {r : Reading} (h : p.Reads r) : r.depth = p.depth := by
  obtain ⟨sides, hsides, hsteps⟩ := h.steps
  obtain ⟨hsums, hlength⟩ := length_sides hsides
  exact length_stepsOf hsums hlength hsteps

theorem entry_eq_ok_iff {p : MerkleProof} {e : Entry} :
    p.entry = .ok e ↔ p.claimant = .entry e := by
  rw [entry]
  split
  next e' h =>
    rw [h, Except.ok.injEq, Claimant.entry.injEq]
  next name balances h => exact iff_of_false (by simp [bind_eq_ok_iff]) (by rw [h]; simp)
  next d h => exact iff_of_false (by simp) (by rw [h]; simp)

theorem leaf_eq_ok_iff {e : Entry} {leaf : Node} :
    Node.leaf e = .ok leaf ↔ ∃ balance identity, e.balance = .ok balance ∧
      e.identity = .ok identity ∧
      Node.ofPair (Scalar.encode identity) (Scalar.encode balance) = leaf := by
  simp only [Node.leaf, bind_eq_ok_iff, pure, Except.pure, Except.ok.injEq, exists_and_left]

theorem verify_eq_true_iff_check {p : MerkleProof} : p.verify = true ↔ p.check = .ok true := by
  rw [verify]
  split
  next accepted h => rw [h, Except.ok.injEq]
  next h => exact iff_of_false (by simp) (by rw [h]; simp)

theorem Reading.running_zero (r : Reading) : r.running 0 = climb r.leaf r.steps := by
  rw [Reading.running, Nat.sub_zero, Reading.depth, List.take_length]

/-- A proof is accepted when it can be read and leads up to the hash that it claims. -/
theorem verify_eq_true_iff {p : MerkleProof} :
    p.verify = true ↔ ∃ r, p.Reads r ∧ p.rootHash.canonical = .ok (r.running 0).1.hash := by
  rw [verify_eq_true_iff_check, check]
  cases hsides : p.sides? with
  | none =>
    refine iff_of_false (by simp) ?_
    rintro ⟨r, hr, -⟩
    obtain ⟨sides, h, -⟩ := hr.steps
    exact absurd (hsides.symm.trans h) (by simp)
  | some sides =>
    simp only [bind_eq_ok_iff, pure, Except.pure, Except.ok.injEq, Bool.and_eq_true,
      decide_eq_true_eq, entry_eq_ok_iff, leaf_eq_ok_iff]
    constructor
    · rintro ⟨e, he, -, ⟨balance, identity, hb, hi, rfl⟩, steps, hsteps, root, hroot, rfl, -⟩
      refine ⟨⟨Scalar.encode identity, Scalar.encode balance, steps⟩,
        ⟨⟨e, identity, balance, he, hi, hb, rfl, rfl⟩, sides, hsides, hsteps⟩, ?_⟩
      rw [hroot, Reading.running_zero]
      rfl
    · rintro ⟨r, ⟨⟨e, identity, balance, he, hi, hb, hri, hrb⟩, sides', hsides', hsteps⟩, hroot⟩
      obtain rfl : sides = sides' := Option.some.inj (hsides.symm.trans hsides')
      refine ⟨e, he, r.leaf, ⟨balance, identity, hb, hi, ?_⟩, r.steps, hsteps, _, hroot, ?_⟩
      · rw [← hri, ← hrb]
        rfl
      · -- that the balances add up to the root's is no further condition
        rw [← Reading.running_zero]
        exact ⟨rfl, r.snd_running 0⟩

/-- A proof is read in one way. -/
theorem Reads.eq {p : MerkleProof} {r r' : Reading} (h : p.Reads r) (h' : p.Reads r') : r = r' := by
  obtain ⟨e, identity, balance, he, hi, hb, hri, hrb⟩ := h.claimant
  obtain ⟨e', identity', balance', he', hi', hb', hri', hrb'⟩ := h'.claimant
  obtain ⟨sides, hsides, hsteps⟩ := h.steps
  obtain ⟨sides', hsides', hsteps'⟩ := h'.steps
  obtain rfl : e = e' := Claimant.entry.inj (he.symm.trans he')
  obtain rfl : identity = identity' := Except.ok.inj (hi.symm.trans hi')
  obtain rfl : balance = balance' := Except.ok.inj (hb.symm.trans hb')
  obtain rfl : sides = sides' := Option.some.inj (hsides.symm.trans hsides')
  have hlist : r.steps = r'.steps := Except.ok.inj (hsteps.symm.trans hsteps')
  cases r
  cases r'
  simp_all

end MerkleProof

end LiabilityProof
