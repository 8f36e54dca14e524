import LiabilityProof.Proofs.Ledger.Identity
import LiabilityProof.Proofs.SumTree.Acceptance
import LiabilityProof.Proofs.SumTree.Agreement
import LiabilityProof.Proofs.SumTree.Tree

/-!
# An accepted proof with another entry

What is read from a proof is its entry and its steps, and the steps do not depend on the entry. So
a proof whose entry is exchanged is read along the same path, and if it is accepted too, both
readings end at one leaf, or two different tuples that are hashed on the way collide. A leaf is
hashed from field elements. Entries that are one in the field can therefore be exchanged, and no
others (`verify_exchanged`).
-/

namespace LiabilityProof

namespace MerkleProof

/-- The proof with another claimant. -/
def withClaimant (p : MerkleProof) (c : Claimant) : MerkleProof := { p with claimant := c }

/-- The proof with the entry of a user of one currency in place of its own. -/
def exchanged (p : MerkleProof) (name : String) (balance : Nat) : MerkleProof :=
  p.withClaimant (.entry ⟨.text name, [balance]⟩)

/-- The reading with the entry of a user of one currency in place of its own. -/
def Reading.exchanged (r : Reading) (name : String) (balance : Nat) : Reading :=
  { r with
    identity := Scalar.encode (Entry.identityOf name)
    balance := Scalar.encode balance }

variable {p : MerkleProof} {r : Reading}

/-- The steps of a proof are read without its entry. -/
theorem Reads.exchanged (h : p.Reads r) (name : String) (balance : Nat) :
    (p.exchanged name balance).Reads (r.exchanged name balance) :=
  ⟨⟨_, _, _, rfl, rfl, rfl, rfl, rfl⟩, h.steps⟩

/-- One path takes the same sides all the way. -/
theorem Reading.sameSides_exchanged (r : Reading) (name : String) (balance : Nat) :
    SameSides r (r.exchanged name balance) r.depth := by
  intro l hl
  cases hs : r.step? l with
  | some s => exact ⟨s, s, rfl, hs, rfl⟩
  | none => exact absurd (step?_eq_none_iff.mp hs) (by omega)

/-- An accepted proof has the entry of a user of one currency. -/
theorem exists_claimant_of_verify (h : p.verify = true) :
    ∃ name balance, p.claimant = .entry ⟨.text name, [balance]⟩ := by
  obtain ⟨name, balance, hclaimant, -⟩ := (verify_eq_true_iff_consistent.mp h).leads_up
  exact ⟨name, balance, hclaimant⟩

/-- What is read from the entry of a user of one currency. -/
theorem Reads.of_claimant {name : String} {balance : Nat} (h : p.Reads r)
    (hclaimant : p.claimant = .entry ⟨.text name, [balance]⟩) :
    r.identity = Scalar.encode (Entry.identityOf name) ∧ r.balance = Scalar.encode balance := by
  have hsame : p.exchanged name balance = p := by
    rw [MerkleProof.exchanged, withClaimant, ← hclaimant]
  have hread := h.exchanged name balance
  rw [hsame] at hread
  rw [h.eq hread]
  exact ⟨rfl, rfl⟩

section Exchange

variable {name : String} {balance : Nat} {name' : String} {balance' : Nat}

/-- A reading does not change when an entry that is the same in the field takes the place of its
own. -/
theorem Reading.exchanged_of_congruent (hid : r.identity = Scalar.encode (Entry.identityOf name))
    (hbalance : r.balance = Scalar.encode balance)
    (h : Entry.Congruent name balance name' balance') : r.exchanged name' balance' = r := by
  obtain ⟨hi, hb⟩ := Entry.congruent_iff.mp h
  rw [Reading.exchanged, ← hi, ← hb, ← hid, ← hbalance]

/-- Entries that are one in the field can be exchanged. -/
theorem verify_exchanged_of_congruent (hp : p.verify = true)
    (hclaimant : p.claimant = .entry ⟨.text name, [balance]⟩)
    (h : Entry.Congruent name balance name' balance') :
    (p.exchanged name' balance').verify = true := by
  obtain ⟨r, hr, hroot⟩ := verify_eq_true_iff.mp hp
  obtain ⟨hid, hbalance⟩ := hr.of_claimant hclaimant
  refine verify_eq_true_iff.mpr ⟨r.exchanged name' balance', hr.exchanged name' balance', ?_⟩
  rw [Reading.exchanged_of_congruent hid hbalance h]
  exact hroot

/-- If the proof is still accepted with another entry, then the entries are one in the field, or
the two verifications hash two different tuples to one value. -/
theorem congruent_of_verify_exchanged (hp : p.verify = true)
    (hclaimant : p.claimant = .entry ⟨.text name, [balance]⟩) (hr : p.Reads r)
    (hq : (p.exchanged name' balance').verify = true)
    (hno : ¬Reading.Collide r (r.exchanged name' balance')) :
    Entry.Congruent name balance name' balance' := by
  obtain ⟨a, ha, hroot⟩ := verify_eq_true_iff.mp hp
  obtain ⟨b, hb, hroot'⟩ := verify_eq_true_iff.mp hq
  obtain rfl : a = r := ha.eq hr
  obtain rfl : b = a.exchanged name' balance' := hb.eq (hr.exchanged name' balance')
  have hhash : (a.running 0).1.hash = ((a.exchanged name' balance').running 0).1.hash :=
    Except.ok.inj (hroot.symm.trans hroot')
  obtain ⟨-, hid, hbalance⟩ := Reading.eq_of_sameSides_depth hno hhash
    (a.sameSides_exchanged name' balance') (.inl rfl)
  obtain ⟨hidentity, hown⟩ := hr.of_claimant hclaimant
  exact Entry.congruent_iff.mpr ⟨hidentity.symm.trans hid, hown.symm.trans hbalance⟩

end Exchange

/-- An accepted proof belongs to a user of one currency, and with anything that is no such user in
its place it is refused. With another user it is accepted if the two are one in the field. If
they are not, it is refused, or two different tuples that are hashed in the two verifications
collide; and plain names with balances below the order are one in the field only if they are
equal. -/
theorem verify_exchanged (hp : p.verify = true) :
    ∃ name balance, p.claimant = .entry ⟨.text name, [balance]⟩ ∧
      (∀ c, (∀ name' balance', c ≠ .entry ⟨.text name', [balance']⟩) →
        (p.withClaimant c).verify = false) ∧
      ∀ name' balance', ∃ a b, p.Reads a ∧ (p.exchanged name' balance').Reads b ∧
        (Entry.Congruent name balance name' balance' →
          (p.exchanged name' balance').verify = true) ∧
        (¬Entry.Congruent name balance name' balance' →
          (p.exchanged name' balance').verify = false ∨ Reading.Collide a b) ∧
        (Entry.IsPlain name → Entry.IsPlain name' → balance < groupOrder → balance' < groupOrder →
          name' ≠ name ∨ balance' ≠ balance →
          (p.exchanged name' balance').verify = false ∨ Reading.Collide a b) := by
  obtain ⟨name, balance, hclaimant⟩ := exists_claimant_of_verify hp
  obtain ⟨r, hr, -⟩ := verify_eq_true_iff.mp hp
  refine ⟨name, balance, hclaimant, fun c hc => ?_, fun name' balance' => ?_⟩
  · refine Bool.eq_false_iff.mpr fun hq => ?_
    obtain ⟨name', balance', h⟩ := exists_claimant_of_verify hq
    exact hc name' balance' h
  · have hbound : ¬Entry.Congruent name balance name' balance' →
        (p.exchanged name' balance').verify = false ∨
          Reading.Collide r (r.exchanged name' balance') := by
      refine fun hne => or_iff_not_imp_right.mpr fun hno => Bool.eq_false_iff.mpr fun hq => ?_
      exact hne (congruent_of_verify_exchanged hp hclaimant hr hq hno)
    refine ⟨r, r.exchanged name' balance', hr, hr.exchanged name' balance',
      verify_exchanged_of_congruent hp hclaimant, hbound, ?_⟩
    intro hname hname' hlt hlt' hne
    refine hbound fun h => ?_
    obtain ⟨hn, hb⟩ := h.eq hname hname' hlt hlt'
    exact hne.elim (fun hn' => hn' hn) fun hb' => hb' hb

theorem verify_exchanged_ofTwoUsers :
    Entry.IsPlain "a" ∧ Entry.IsPlain "b" ∧ (ofTwoUsers false).verify = true ∧
      ∃ a b, (ofTwoUsers false).Reads a ∧ ((ofTwoUsers false).exchanged "b" 7).Reads b ∧
        (((ofTwoUsers false).exchanged "b" 7).verify = false ∨ Reading.Collide a b) := by
  have ha : Entry.IsPlain "a" := ⟨by decide +kernel, by decide +kernel⟩
  have hb : Entry.IsPlain "b" := ⟨by decide +kernel, by decide +kernel⟩
  have hp : (ofTwoUsers false).verify = true := by decide +kernel
  obtain ⟨name, balance, hclaimant, -, hothers⟩ := verify_exchanged hp
  obtain ⟨⟨⟩, ⟨⟩⟩ : "a" = name ∧ 5 = balance := by
    simpa [ofTwoUsers] using hclaimant
  obtain ⟨r, r', hr, hr', -, -, hplain⟩ := hothers "b" 7
  exact ⟨ha, hb, hp, r, r', hr, hr',
    hplain ha hb (by decide) (by decide) (.inl (by decide))⟩

/-! ### Entries that are one in the field -/

/-- The proof of a user who is alone in a tree. -/
def ofOneUser (name : String) (balance : Nat) : MerkleProof :=
  ofSteps ⟨.text name, [balance]⟩
    (Node.ofPair (Scalar.encode (Entry.identityOf name)) (Scalar.encode balance)).hash []

theorem verify_ofOneUser (name : String) (balance : Nat) :
    (ofOneUser name balance).verify = true :=
  verify_eq_true_iff.mpr ⟨_, reads_ofSteps name balance _ [], rfl⟩

/-- Where nothing is hashed but the leaf, one entry in the place of another that is the same in the
field collides with nothing. -/
theorem not_collide_ofOneUser {name : String} {balance : Nat} {name' : String} {balance' : Nat}
    (h : Entry.Congruent name balance name' balance') {a b : Reading}
    (ha : (ofOneUser name balance).Reads a)
    (hb : ((ofOneUser name balance).exchanged name' balance').Reads b) :
    ¬Reading.Collide a b := by
  have hclaimant : (ofOneUser name balance).claimant = .entry ⟨.text name, [balance]⟩ := rfl
  obtain ⟨hid, hbalance⟩ := ha.of_claimant hclaimant
  obtain rfl : b = a :=
    (hb.eq (ha.exchanged name' balance')).trans (Reading.exchanged_of_congruent hid hbalance h)
  have hdepth : b.depth = 0 := ha.depth_eq
  rintro ⟨l, hl, m, hm, hne, -⟩
  obtain rfl : l = m := by omega
  exact hne rfl

/-- The order of the field can be added to the balance, and a zero byte put before the name. -/
theorem exists_exchanged_accepted :
    (ofOneUser "a" 5).verify = true ∧
      ∀ user ∈ [("a", 5 + groupOrder), ("\x00a", 5)], user ≠ ("a", 5) ∧
        ((ofOneUser "a" 5).exchanged user.1 user.2).verify = true ∧
        ∀ a b, (ofOneUser "a" 5).Reads a → ((ofOneUser "a" 5).exchanged user.1 user.2).Reads b →
          ¬Reading.Collide a b := by
  have hcongruent : ∀ user ∈ [("a", 5 + groupOrder), ("\x00a", 5)],
      Entry.Congruent "a" 5 user.1 user.2 := by
    refine List.forall_mem_cons.mpr ⟨⟨rfl, Nat.add_mod_right 5 groupOrder⟩, ?_⟩
    refine List.forall_mem_singleton.mpr ⟨?_, rfl⟩
    have hid : Entry.identityOf "\x00a" = Entry.identityOf "a" := by decide +kernel
    exact congrArg (· % groupOrder) hid
  have hdifferent : ∀ user ∈ [("a", 5 + groupOrder), ("\x00a", 5)], user ≠ ("a", 5) := by
    decide +kernel
  refine ⟨verify_ofOneUser "a" 5, fun user huser => ⟨hdifferent user huser, ?_, ?_⟩⟩
  · exact verify_exchanged_of_congruent (verify_ofOneUser "a" 5) rfl (hcongruent user huser)
  · exact fun a b ha hb => not_collide_ofOneUser (hcongruent user huser) ha hb

end MerkleProof

end LiabilityProof
