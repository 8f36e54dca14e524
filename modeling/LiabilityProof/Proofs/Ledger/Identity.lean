import Mathlib.Data.Nat.ModEq
import LiabilityProof.Ledger.Entry
import LiabilityProof.Proofs.Text.BigEndian

/-!
# What the field keeps of a user

Identities and balances are numbers of any size, and the field keeps their classes only. Two names
of at most 31 bytes that do not start with a zero byte have different identities below the order of
the field, so these stay apart there; other names may meet.
-/

namespace LiabilityProof

namespace Scalar

theorem encode_eq_encode_iff {m n : Nat} : encode m = encode n ↔ m ≡ n [MOD groupOrder] :=
  ⟨congrArg Residue.val, fun h => Residue.ext h⟩

end Scalar

namespace Entry

/-- Two users of one currency that are one in the field. -/
structure Congruent (name : String) (balance : Nat) (name' : String) (balance' : Nat) : Prop where
  /-- The identities are in one class. -/
  identity : identityOf name' ≡ identityOf name [MOD groupOrder]
  /-- The balances are in one class. -/
  balance : balance' ≡ balance [MOD groupOrder]

theorem congruent_iff {name name' : String} {balance balance' : Nat} :
    Congruent name balance name' balance' ↔
      Scalar.encode (identityOf name) = Scalar.encode (identityOf name') ∧
        Scalar.encode balance = Scalar.encode balance' := by
  rw [Scalar.encode_eq_encode_iff, Scalar.encode_eq_encode_iff]
  exact ⟨fun h => ⟨h.identity.symm, h.balance.symm⟩, fun h => ⟨h.1.symm, h.2.symm⟩⟩

/-- Whether a name keeps its identity in the field. -/
structure IsPlain (name : String) : Prop where
  /-- The bytes are fewer than those of a field element. -/
  short : (Text.utf8 name).length < Scalar.byteWidth
  /-- The first byte is not zero. -/
  starts : (Text.utf8 name).head? ≠ some 0

namespace IsPlain

variable {name name' : String}

theorem identityOf_lt (h : IsPlain name) : identityOf name < groupOrder := by
  have hlength : (Text.utf8 name).length ≤ 31 := Nat.le_of_lt_succ h.short
  calc identityOf name < 256 ^ (Text.utf8 name).length := Text.ofBigEndian_lt _
    _ ≤ 256 ^ 31 := Nat.pow_le_pow_right (by decide) hlength
    _ < groupOrder := by decide

/-- Two such names have one identity in the field only if they are equal. -/
theorem identityOf_inj (h : IsPlain name) (h' : IsPlain name') :
    identityOf name ≡ identityOf name' [MOD groupOrder] ↔ name = name' := by
  refine ⟨fun hclass => ?_, fun heq => heq ▸ Nat.ModEq.refl _⟩
  have hnumber : identityOf name = identityOf name' :=
    hclass.eq_of_lt_of_lt h.identityOf_lt h'.identityOf_lt
  exact Text.utf8_inj.mp (Text.eq_of_ofBigEndian_eq h.starts h'.starts hnumber)

end IsPlain

/-- Users of such names and of balances below the order are one in the field only if they are
equal. -/
theorem Congruent.eq {name name' : String} {balance balance' : Nat}
    (h : Congruent name balance name' balance') (hname : IsPlain name) (hname' : IsPlain name')
    (hbalance : balance < groupOrder) (hbalance' : balance' < groupOrder) :
    name' = name ∧ balance' = balance :=
  ⟨(hname'.identityOf_inj hname).mp h.identity, h.balance.eq_of_lt_of_lt hbalance' hbalance⟩

end Entry

end LiabilityProof
