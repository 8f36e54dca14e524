import LiabilityProof.Proofs.SumTree.Run

/-!
# Accepted proofs for one root

Two proofs that are accepted for one root either describe one tree, as far as they overlap, or
hash two different tuples to one value (`collide_or_agree`). Without such a collision, equal
hashes have equal inputs. So from the root down, as long as the two paths take the same sides,
they run through the same nodes and have the same siblings, and where they part, each of them has
the other's node for a sibling. A leaf is hashed from two field elements and any other node from
three, so a path cannot end where the other one goes on.
-/

namespace LiabilityProof

open scoped Residue

namespace MerkleProof

/-! ### Inputs of one step -/

theorem Step.eq_of_input_eq {s t : Step} {n n' : Node} (hside : s.isRight = t.isRight)
    (h : s.input n = t.input n') :
    n.hash = n'.hash ∧ s.sibling.hash = t.sibling.hash ∧
      n.balance + s.sibling.balance = n'.balance + t.sibling.balance := by
  rw [Step.input, Step.input, hside] at h
  split at h
  · simp only [List.cons.injEq, and_true] at h
    rw [add_comm, add_comm n'.balance]
    exact ⟨h.2.1, h.1, h.2.2⟩
  · simp only [List.cons.injEq, and_true] at h
    exact h

theorem Step.eq_of_input_eq_of_ne {s t : Step} {n n' : Node} (hside : s.isRight ≠ t.isRight)
    (h : s.input n = t.input n') :
    n.hash = t.sibling.hash ∧ n'.hash = s.sibling.hash ∧
      n.balance + s.sibling.balance = n'.balance + t.sibling.balance := by
  have hnot : t.isRight = !s.isRight := (Bool.not_eq.mpr hside).symm
  rw [Step.input, Step.input, hnot] at h
  cases hs : s.isRight <;> simp only [hs, Bool.not_false, Bool.not_true, if_true,
    Bool.false_eq_true, if_false, List.cons.injEq, and_true] at h
  · rw [add_comm n'.balance]
    exact ⟨h.1, h.2.1.symm, h.2.2⟩
  · rw [add_comm n.balance]
    exact ⟨h.2.1, h.1.symm, h.2.2⟩

/-! ### Two readings -/

namespace Reading

/-- Two different tuples that are hashed in the two runs have one hash. -/
def Collide (a b : Reading) : Prop :=
  ∃ l ≤ a.depth, ∃ m ≤ b.depth, a.input l ≠ b.input m ∧
    hashToField (a.input l) = hashToField (b.input m)

/-- Above a level, counted from the root, both paths take the same sides. -/
def SameSides (a b : Reading) (l : Nat) : Prop :=
  ∀ m < l, ∃ s t, a.step? m = some s ∧ b.step? m = some t ∧ s.isRight = t.isRight

variable {a b : Reading} {l m : Nat}

theorem SameSides.le (h : SameSides a b l) : l ≤ a.depth ∧ l ≤ b.depth := by
  cases l with
  | zero => exact ⟨Nat.zero_le _, Nat.zero_le _⟩
  | succ l =>
    obtain ⟨s, t, hs, ht, -⟩ := h l (Nat.lt_succ_self l)
    exact ⟨lt_depth hs, lt_depth ht⟩

theorem SameSides.of_succ (h : SameSides a b (l + 1)) : SameSides a b l :=
  fun m hm => h m (Nat.lt_succ_of_lt hm)

section Binding

variable (hno : ¬Collide a b)

include hno in
/-- Without a collision, equal hashes have equal inputs. -/
theorem input_eq_of_hash_eq (hl : l ≤ a.depth) (hm : m ≤ b.depth)
    (h : (a.running l).1.hash = (b.running m).1.hash) : a.input l = b.input m := by
  rw [hash_running, hash_running] at h
  exact by_contra fun hne => hno ⟨l, hl, m, hm, hne, h⟩

include hno in
/-- Without a collision, nodes with equal hashes are equal. -/
theorem running_eq_of_hash_eq (hl : l ≤ a.depth) (hm : m ≤ b.depth)
    (h : (a.running l).1.hash = (b.running m).1.hash) : a.running l = b.running m := by
  have hbalance : (a.running l).1.balance = (b.running m).1.balance := by
    apply Option.some.inj
    rw [← getLast?_input, ← getLast?_input, input_eq_of_hash_eq hno hl hm h]
  have hnode : (a.running l).1 = (b.running m).1 := by
    cases hx : (a.running l).1
    cases hy : (b.running m).1
    simp_all
  rw [Prod.ext_iff, snd_running, snd_running, hnode]
  exact ⟨rfl, rfl⟩

variable (hroot : (a.running 0).1.hash = (b.running 0).1.hash)

include hno hroot in
/-- As long as the paths take the same sides they run through nodes of the same hashes. -/
theorem hash_eq_of_sameSides (h : SameSides a b l) :
    (a.running l).1.hash = (b.running l).1.hash := by
  induction l with
  | zero => exact hroot
  | succ l ih =>
    obtain ⟨s, t, hs, ht, hside⟩ := h l (Nat.lt_succ_self l)
    have hinput := input_eq_of_hash_eq hno (lt_depth hs).le (lt_depth ht).le (ih h.of_succ)
    rw [input_of_step hs, input_of_step ht] at hinput
    exact (Step.eq_of_input_eq hside hinput).1

include hno hroot in
/-- Where the paths take the same side they have the same sibling, above the same node. -/
theorem agree_of_sameSides {s t : Step} (h : SameSides a b l) (hs : a.step? l = some s)
    (ht : b.step? l = some t) (hside : s.isRight = t.isRight) :
    s.sibling = t.sibling ∧ a.running (l + 1) = b.running (l + 1) := by
  have hinput := input_eq_of_hash_eq hno (lt_depth hs).le (lt_depth ht).le
    (hash_eq_of_sameSides hno hroot h)
  rw [input_of_step hs, input_of_step ht] at hinput
  obtain ⟨hhash, hsibling, hsum⟩ := Step.eq_of_input_eq hside hinput
  have hrunning := running_eq_of_hash_eq hno (lt_depth hs) (lt_depth ht) hhash
  rw [hrunning, add_right_inj] at hsum
  refine ⟨?_, hrunning⟩
  cases hx : s.sibling
  cases hy : t.sibling
  simp_all

include hno hroot in
/-- Where the paths part, each has the other's node for a sibling. -/
theorem cross_of_sameSides {s t : Step} (h : SameSides a b l) (hs : a.step? l = some s)
    (ht : b.step? l = some t) (hside : s.isRight ≠ t.isRight) :
    (a.running (l + 1)).1.hash = t.sibling.hash ∧ (b.running (l + 1)).1.hash = s.sibling.hash ∧
      (a.running (l + 1)).2 + s.sibling.balance = (b.running (l + 1)).2 + t.sibling.balance := by
  have hinput := input_eq_of_hash_eq hno (lt_depth hs).le (lt_depth ht).le
    (hash_eq_of_sameSides hno hroot h)
  rw [input_of_step hs, input_of_step ht] at hinput
  rw [snd_running, snd_running]
  exact Step.eq_of_input_eq_of_ne hside hinput

include hno hroot in
/-- A path does not end before the other one, as long as both take the same sides. -/
theorem eq_of_sameSides_depth (h : SameSides a b l) (hl : l = a.depth ∨ l = b.depth) :
    a.depth = b.depth ∧ a.identity = b.identity ∧ a.balance = b.balance := by
  have hinput := input_eq_of_hash_eq hno h.le.1 h.le.2 (hash_eq_of_sameSides hno hroot h)
  -- a node above the leaf is hashed from three members, and the leaf from two
  cases hs : a.step? l with
  | some s =>
    cases ht : b.step? l with
    | some t =>
      have hla := lt_depth hs
      have hlb := lt_depth ht
      omega
    | none =>
      rw [input_of_step hs, input_of_depth_le (step?_eq_none_iff.mp ht)] at hinput
      have hlength := Step.length_input s (a.running (l + 1)).1
      rw [hinput] at hlength
      exact absurd hlength (by simp)
  | none =>
    have ha := step?_eq_none_iff.mp hs
    cases ht : b.step? l with
    | some t =>
      rw [input_of_step ht, input_of_depth_le ha] at hinput
      have hlength := Step.length_input t (b.running (l + 1)).1
      rw [← hinput] at hlength
      exact absurd hlength (by simp)
    | none =>
      have hb := step?_eq_none_iff.mp ht
      have hle := h.le
      rw [input_of_depth_le ha, input_of_depth_le hb] at hinput
      simp only [List.cons.injEq, and_true] at hinput
      exact ⟨by omega, hinput⟩

end Binding

end Reading

/-- Two readings describe one tree as far as they overlap. -/
structure Reading.Agree (a b : Reading) : Prop where
  /-- Where the paths have taken the same sides, they have the same sibling and, below it, have
  reached the same node and the same balance. -/
  sibling : ∀ l s t, Reading.SameSides a b l → a.step? l = some s → b.step? l = some t →
    s.isRight = t.isRight → s.sibling = t.sibling ∧ a.running (l + 1) = b.running (l + 1)
  /-- Where the paths part, the node that each has reached is the sibling of the other, and what
  they add up to above is the same. -/
  crossing : ∀ l s t, Reading.SameSides a b l → a.step? l = some s → b.step? l = some t →
    s.isRight ≠ t.isRight →
    (a.running (l + 1)).1.hash = t.sibling.hash ∧ (b.running (l + 1)).1.hash = s.sibling.hash ∧
      (a.running (l + 1)).2 + s.sibling.balance = (b.running (l + 1)).2 + t.sibling.balance
  /-- Paths that have not parted end together, at the same entry. -/
  ending : ∀ l, Reading.SameSides a b l → l = a.depth ∨ l = b.depth →
    a.depth = b.depth ∧ a.identity = b.identity ∧ a.balance = b.balance

/-- Two proofs that are accepted for one root describe one tree, or two different tuples that
are hashed on the way collide. Levels are counted from the root. -/
theorem collide_or_agree {p q : MerkleProof} (hp : p.verify = true) (hq : q.verify = true)
    (hroot : p.rootHash.canonical = q.rootHash.canonical) :
    ∃ a b, p.Reads a ∧ q.Reads b ∧ a.depth = p.depth ∧ b.depth = q.depth ∧
      (Reading.Collide a b ∨ Reading.Agree a b) := by
  obtain ⟨a, ha, hpa⟩ := verify_eq_true_iff.mp hp
  obtain ⟨b, hb, hqb⟩ := verify_eq_true_iff.mp hq
  have hhash : (a.running 0).1.hash = (b.running 0).1.hash :=
    Except.ok.inj (hpa.symm.trans (hroot.trans hqb))
  refine ⟨a, b, ha, hb, ha.depth_eq, hb.depth_eq, or_iff_not_imp_left.mpr fun hno => ?_⟩
  exact ⟨fun l s t h hs ht => Reading.agree_of_sameSides hno hhash h hs ht,
    fun l s t h hs ht => Reading.cross_of_sameSides hno hhash h hs ht,
    fun l h hl => Reading.eq_of_sameSides_depth hno hhash h hl⟩

/-- The proof of one of two users, who stand to the left and to the right of the root. -/
def ofTwoUsers (isRight : Bool) : MerkleProof :=
  let left := Node.ofPair (Scalar.encode 97) (Scalar.encode 5)
  let right := Node.ofPair (Scalar.encode 98) (Scalar.encode 7)
  let sibling := if isRight then left else right
  { claimant := .entry (if isRight then ⟨.text "b", [7]⟩ else ⟨.text "a", [5]⟩)
    rootHash := .scalar (left.join right).hash
    siblingHashes := [.scalar sibling.hash]
    siblingSums := [.scalar sibling.balance]
    pathIndices := [.integer (if isRight then 1 else 0)] }

theorem collide_or_agree_ofTwoUsers : ∃ a b,
    (ofTwoUsers false).Reads a ∧ (ofTwoUsers true).Reads b ∧ a.depth = 1 ∧ b.depth = 1 ∧
      (Reading.Collide a b ∨ Reading.Agree a b) :=
  collide_or_agree (p := ofTwoUsers false) (q := ofTwoUsers true) (by decide +kernel)
    (by decide +kernel) rfl

end MerkleProof

end LiabilityProof
