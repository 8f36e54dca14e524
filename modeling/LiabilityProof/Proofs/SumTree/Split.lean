import LiabilityProof.Proofs.SumTree.Agreement

/-!
# The split of a total

A node above the leaves is hashed from the hashes of its children and from the sum of their
balances. The sum is bound by the hash, and its split between the children is not. Where the paths
of two accepted proofs part, both add up to one sum, and each of them may take the other user's
part for something else than it is. But both are wrong by one amount, which is what the sum has
beyond the parts that the two users see (`Reading.CommonExcess`, `collide_or_common_excess`).

Nothing bounds this excess. Two users have accepted proofs for whatever total somebody claims
(`verify_ofTotal`), and the total can be less than what they are owed together
(`exists_excess_ne_zero`).
-/

namespace LiabilityProof

open scoped Residue

namespace MerkleProof

/-! ### The excess -/

namespace Reading

/-- Where two paths part, each has the other's node for a sibling, as far as the hash goes. Both
add up to one sum, and one excess over the balances reached below it goes into the balances of
both siblings. -/
def CommonExcess (a b : Reading) : Prop :=
  ∀ l s t, SameSides a b l → a.step? l = some s → b.step? l = some t → s.isRight ≠ t.isRight →
    s.sibling.hash = (b.running (l + 1)).1.hash ∧
      t.sibling.hash = (a.running (l + 1)).1.hash ∧
      (a.running l).2 = (b.running l).2 ∧
      ∃ e, s.sibling.balance = (b.running (l + 1)).2 + e ∧
        t.sibling.balance = (a.running (l + 1)).2 + e ∧
        (a.running l).2 = (a.running (l + 1)).2 + (b.running (l + 1)).2 + e

variable {a b : Reading} {l : Nat} {s t : Step}

/-- The balance of a node is that of the path below it and that of the sibling. -/
theorem snd_running_of_step (hs : a.step? l = some s) :
    (a.running l).2 = (a.running (l + 1)).2 + s.sibling.balance := by
  rw [running_of_step hs]

/-- Below one sum, two paths that part take each other for larger by the same amount. -/
theorem exists_excess (hs : a.step? l = some s) (ht : b.step? l = some t)
    (hsum : (a.running l).2 = (b.running l).2) :
    ∃ e, s.sibling.balance = (b.running (l + 1)).2 + e ∧
      t.sibling.balance = (a.running (l + 1)).2 + e ∧
      (a.running l).2 = (a.running (l + 1)).2 + (b.running (l + 1)).2 + e := by
  have hb := hsum.trans (snd_running_of_step ht)
  have ha := snd_running_of_step hs
  refine ⟨(a.running l).2 - (a.running (l + 1)).2 - (b.running (l + 1)).2, ?_, ?_, ?_⟩
  · rw [ha]
    ring
  · rw [hb]
    ring
  · ring

theorem commonExcess_of_not_collide (hno : ¬Collide a b)
    (hroot : (a.running 0).1.hash = (b.running 0).1.hash) : CommonExcess a b := by
  intro l s t hsame hs ht hside
  obtain ⟨hleft, hright, hadd⟩ := cross_of_sameSides hno hroot hsame hs ht hside
  have hsum : (a.running l).2 = (b.running l).2 := by
    rw [snd_running_of_step hs, snd_running_of_step ht, hadd]
  exact ⟨hright.symm, hleft.symm, hsum, exists_excess hs ht hsum⟩

end Reading

/-- Two proofs that are accepted for one root have a common excess where their paths part, or two
different tuples that are hashed on the way collide. -/
theorem collide_or_common_excess {p q : MerkleProof} (hp : p.verify = true)
    (hq : q.verify = true) (hroot : p.rootHash.canonical = q.rootHash.canonical) :
    ∃ a b, p.Reads a ∧ q.Reads b ∧ a.depth = p.depth ∧ b.depth = q.depth ∧
      (Reading.Collide a b ∨ Reading.CommonExcess a b) := by
  obtain ⟨a, ha, hpa⟩ := verify_eq_true_iff.mp hp
  obtain ⟨b, hb, hqb⟩ := verify_eq_true_iff.mp hq
  have hhash : (a.running 0).1.hash = (b.running 0).1.hash :=
    Except.ok.inj (hpa.symm.trans (hroot.trans hqb))
  exact ⟨a, b, ha, hb, ha.depth_eq, hb.depth_eq, or_iff_not_imp_left.mpr fun hno =>
    Reading.commonExcess_of_not_collide hno hhash⟩

/-! ### Claimed totals -/

/-- The leaf of a user with a name and a balance. -/
def leafOf (user : String × Nat) : Node :=
  .ofPair (Scalar.encode (Entry.identityOf user.1)) (Scalar.encode user.2)

/-- The proof of one of two users under a root that claims a total: to the other user's leaf it
gives what remains of the total. -/
def ofTotal (left right : String × Nat) (total : Scalar) (isRight : Bool) : MerkleProof :=
  let (own, other) := if isRight then (right, left) else (left, right)
  { claimant := .entry ⟨.text own.1, [own.2]⟩
    rootHash := .scalar (hashToField [(leafOf left).hash, (leafOf right).hash, total])
    siblingHashes := [.scalar (leafOf other).hash]
    siblingSums := [.scalar (total - Scalar.encode own.2)]
    pathIndices := [.integer (if isRight then 1 else 0)] }

/-- What `MerkleProof.ofTotal` says. -/
def Reading.ofTotal (left right : String × Nat) (total : Scalar) (isRight : Bool) : Reading :=
  let (own, other) := if isRight then (right, left) else (left, right)
  { identity := Scalar.encode (Entry.identityOf own.1)
    balance := Scalar.encode own.2
    steps := [⟨⟨(leafOf other).hash, total - Scalar.encode own.2⟩, isRight⟩] }

section Totals

variable (left right : String × Nat) (total : Scalar) (isRight : Bool)

theorem depth_ofTotal : (ofTotal left right total isRight).depth = 1 := by
  cases isRight <;> rfl

theorem reads_ofTotal :
    (ofTotal left right total isRight).Reads (.ofTotal left right total isRight) := by
  cases isRight <;> exact ⟨⟨_, _, _, rfl, rfl, rfl, rfl, rfl⟩, _, rfl, rfl⟩

/-- What is hashed for the root are the two leaves and the total. -/
theorem input_ofTotal : (Reading.ofTotal left right total isRight).input 0 =
    [(leafOf left).hash, (leafOf right).hash, total] := by
  cases isRight
  · change [(leafOf left).hash, (leafOf right).hash,
      Scalar.encode left.2 + (total - Scalar.encode left.2)] = _
    rw [add_sub_cancel]
  · change [(leafOf left).hash, (leafOf right).hash,
      total - Scalar.encode right.2 + Scalar.encode right.2] = _
    rw [sub_add_cancel]

/-- The proofs of both users are accepted, whatever total is claimed. -/
theorem verify_ofTotal : (ofTotal left right total isRight).verify = true := by
  refine verify_eq_true_iff.mpr ⟨_, reads_ofTotal left right total isRight, ?_⟩
  rw [Reading.hash_running, input_ofTotal]
  cases isRight <;> rfl

end Totals

theorem collide_or_common_excess_ofTotal : ∃ a b,
    (ofTotal ("a", 5) ("b", 7) (Scalar.encode 7) false).Reads a ∧
      (ofTotal ("a", 5) ("b", 7) (Scalar.encode 7) true).Reads b ∧
      a.depth = (ofTotal ("a", 5) ("b", 7) (Scalar.encode 7) false).depth ∧
      b.depth = (ofTotal ("a", 5) ("b", 7) (Scalar.encode 7) true).depth ∧
      (Reading.Collide a b ∨ Reading.CommonExcess a b) :=
  collide_or_common_excess (verify_ofTotal _ _ _ _) (verify_ofTotal _ _ _ _) rfl

/-- In the two runs the leaves and the root are hashed, and nothing else. -/
theorem not_collide_ofTotal {left right : String × Nat} {total : Scalar}
    (hleaves : (leafOf left).hash ≠ (leafOf right).hash)
    (hroot : ∀ user ∈ [left, right], (leafOf user).hash ≠
      hashToField [(leafOf left).hash, (leafOf right).hash, total]) :
    ¬Reading.Collide (.ofTotal left right total false) (.ofTotal left right total true) := by
  rintro ⟨l, hl, m, hm, hne, hhash⟩
  have hleft := hroot left (by simp)
  have hright := hroot right (by simp)
  -- both readings have the depth one
  obtain rfl | rfl : l = 0 ∨ l = 1 := Nat.le_one_iff_eq_zero_or_eq_one.mp hl <;>
    obtain rfl | rfl : m = 0 ∨ m = 1 := Nat.le_one_iff_eq_zero_or_eq_one.mp hm
  · rw [input_ofTotal, input_ofTotal] at hne
    exact hne rfl
  · rw [input_ofTotal] at hhash
    exact hright hhash.symm
  · rw [input_ofTotal] at hhash
    exact hleft hhash
  · exact hleaves hhash

/-- Two users who are owed 5 and 7 have accepted proofs for one root of the total 7. No tuples
collide, and where the paths part neither sibling has the balance of the other user. -/
theorem exists_excess_ne_zero :
    let p := ofTotal ("a", 5) ("b", 7) (Scalar.encode 7) false
    let q := ofTotal ("a", 5) ("b", 7) (Scalar.encode 7) true
    p.verify = true ∧ q.verify = true ∧ p.depth = q.depth ∧
      p.rootHash.canonical = q.rootHash.canonical ∧
      ∀ a b, p.Reads a → q.Reads b → ¬Reading.Collide a b ∧ Reading.SameSides a b 0 ∧
        ∃ s t, a.step? 0 = some s ∧ b.step? 0 = some t ∧ s.isRight ≠ t.isRight ∧
          s.sibling.balance ≠ (b.running 1).2 ∧ t.sibling.balance ≠ (a.running 1).2 ∧
          (a.running 0).2 ≠ (a.running 1).2 + (b.running 1).2 := by
  have hleaves : (leafOf ("a", 5)).hash ≠ (leafOf ("b", 7)).hash := by decide +kernel
  have hroot : ∀ user ∈ [("a", 5), ("b", 7)], (leafOf user).hash ≠
      hashToField [(leafOf ("a", 5)).hash, (leafOf ("b", 7)).hash, Scalar.encode 7] := by
    decide +kernel
  refine ⟨verify_ofTotal _ _ _ _, verify_ofTotal _ _ _ _, ?_, rfl, fun a b ha hb => ?_⟩
  · rw [depth_ofTotal, depth_ofTotal]
  obtain rfl := ha.eq (reads_ofTotal ("a", 5) ("b", 7) (Scalar.encode 7) false)
  obtain rfl := hb.eq (reads_ofTotal ("a", 5) ("b", 7) (Scalar.encode 7) true)
  refine ⟨not_collide_ofTotal hleaves hroot, fun m hm => absurd hm (Nat.not_lt_zero m), ?_⟩
  refine ⟨_, _, rfl, rfl, Bool.false_ne_true, ?_, ?_, ?_⟩
  · change Scalar.encode 7 - Scalar.encode 5 ≠ Scalar.encode 7
    decide +kernel
  · change Scalar.encode 7 - Scalar.encode 7 ≠ Scalar.encode 5
    decide +kernel
  · change Scalar.encode 5 + (Scalar.encode 7 - Scalar.encode 5) ≠ Scalar.encode 5 + Scalar.encode 7
    decide +kernel

end MerkleProof

end LiabilityProof
