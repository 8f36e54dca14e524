import LiabilityProof.Proofs.SumTree.Agreement
import LiabilityProof.Proofs.SumTree.Tree
import LiabilityProof.Proofs.Wire.MerkleProof
import LiabilityProof.Proofs.Wire.Written

/-!
# Sum tree proofs are read back

A proof that nobody has checked may hold any values. It can be written if its hashes and sums amount
to field elements without being reduced and its sides are natural numbers
(`MerkleProof.Writable`), whether the proof fits together or not: the three sequences may differ in
length, and a side may be any number. What is read of the document is the proof with the field
elements in the places of the values that amounted to them (`MerkleProof.ReadBackAs`).

The verifier takes field elements and integers for the same thing, so its answer is kept. Only a
truth value is refused by the verifier and has a number when it is written: what is read back then
may be accepted.
-/

namespace LiabilityProof

namespace Datum

/-- The value amounts to the least member of a field element. -/
def AmountsTo (d : Datum) (a : Scalar) : Prop := d.toInteger = .ok a.val

/-- The value is a field element, or an integer in the range of the least members. Truth values are
the integers zero and one here. -/
def InField : Datum → Prop
  | scalar _ => True
  | integer n => 0 ≤ n ∧ n < groupOrder
  | bool _ => True
  | _ => False

/-- The second value is the field element that the first amounts to. -/
def IsReadAs (d d' : Datum) : Prop := ∃ a, d.reduced = .ok a ∧ d' = .scalar a

variable {d : Datum} {a : Scalar}

theorem InField.exists_amountsTo (h : d.InField) : ∃ a, d.AmountsTo a := by
  cases d with
  | scalar a => exact ⟨a, rfl⟩
  | integer n =>
    obtain ⟨hnonneg, hlt⟩ := h
    refine ⟨⟨n.toNat, (Int.toNat_lt hnonneg).mpr hlt⟩, ?_⟩
    exact congrArg Except.ok (Int.toNat_of_nonneg hnonneg).symm
  | bool b =>
    cases b with
    | false => exact ⟨⟨0, by decide⟩, rfl⟩
    | true => exact ⟨⟨1, by decide⟩, rfl⟩
  | null | double | text | array | object => exact h.elim

theorem InField.isElement_or_bool (h : d.InField) : d.IsElement ∨ ∃ b, d = .bool b := by
  cases d with
  | scalar a => exact .inl trivial
  | integer n => exact .inl h
  | bool b => exact .inr ⟨b, rfl⟩
  | null | double | text | array | object => exact h.elim

theorem AmountsTo.isReadAs (h : d.AmountsTo a) : d.IsReadAs (.scalar a) := by
  refine ⟨a, ?_, rfl⟩
  rw [reduced, h]
  exact congrArg Except.ok (Residue.ofInt_val a)

/-- The verifier takes the field element for the value. -/
theorem IsReadAs.canonical_eq {d' : Datum} (h : d.IsReadAs d') (helement : d.IsElement) :
    d.canonical = d'.canonical := by
  obtain ⟨a, ha, rfl⟩ := h
  refine canonical_eq_ok_iff.mpr ⟨helement, ?_⟩
  cases d with
  | scalar b => exact (Residue.ofInt_val b).symm.trans (Except.ok.inj ha)
  | integer n => exact Except.ok.inj ha
  | null | bool | double | text | array | object => exact helement.elim

end Datum

namespace Wire

open Datum

/-! ### Writing -/

theorem lt_of_lt_groupOrder {n : Nat} (h : n < groupOrder) : n < 10 ^ Text.maxDigits :=
  h.trans (Text.lt_pow_maxDigits (by decide : groupOrder < 10 ^ 78) (by decide))

/-- The document of a proof. -/
def proofDocument (e : Entry) (rootHash : Scalar) (hashes sums : List Scalar) (sides : List Nat) :
    Datum :=
  .object
    [("entry", ofEntry e),
     ("root_hash", ofScalar rootHash),
     ("sibling_hashes", .array (hashes.map ofScalar)),
     ("sibling_sums", .array (sums.map ofScalar)),
     ("path_indices", .array (sides.map fun (n : Nat) => .integer n))]

theorem ofInteger_natCast {n : Nat} (h : n < 10 ^ Text.maxDigits) :
    ofInteger n = .ok (decimal n) := by
  rw [ofInteger, Text.isTooLong_natCast h]
  rfl

theorem ofProofField_of_amountsTo {d : Datum} {a : Scalar} (h : d.AmountsTo a) :
    ofProofField d = .ok (ofScalar a) :=
  bind_eq_ok_iff.mpr ⟨a.val, h, ofInteger_natCast (lt_of_lt_groupOrder a.isLt)⟩

theorem mapM_ofProofField {values : List Datum} {elements : List Scalar}
    (h : List.Forall₂ AmountsTo values elements) :
    values.mapM ofProofField = .ok (elements.map ofScalar) :=
  mapM_eq_ok_iff.mpr <| List.forall₂_map_right_iff.mpr <|
    h.imp fun _ _ => ofProofField_of_amountsTo

theorem ofEntryChecked_eq_ok {e : Entry} (h : ∀ b ∈ e.balances, b < 10 ^ Text.maxDigits) :
    ofEntryChecked e = .ok (ofEntry e) := by
  refine if_neg fun hany => ?_
  obtain ⟨b, hb, hlong⟩ := List.any_eq_true.mp hany
  exact Bool.false_ne_true ((Text.isTooLong_natCast (h b hb)).symm.trans hlong)

variable {p : MerkleProof} {e : Entry} {rootHash : Scalar} {hashes sums : List Scalar}
  {sides : List Nat}

/-- What is written of a proof. -/
theorem ofMerkleProof_eq_ok (hclaimant : p.claimant = .entry e)
    (hbalances : ∀ b ∈ e.balances, b < 10 ^ Text.maxDigits)
    (hroot : p.rootHash.AmountsTo rootHash)
    (hhashes : List.Forall₂ AmountsTo p.siblingHashes hashes)
    (hsums : List.Forall₂ AmountsTo p.siblingSums sums)
    (hsides : p.pathIndices = sides.map fun (n : Nat) => .integer n) :
    ofMerkleProof p = .ok (proofDocument e rootHash hashes sums sides) := by
  have hentry : p.entry = .ok e := by rw [MerkleProof.entry, hclaimant]
  have hindices : p.pathIndices.mapM toInteger = .ok (sides.map fun (n : Nat) => (n : Int)) := by
    rw [hsides]
    exact mapM_map_eq_ok_map fun n _ => rfl
  rw [ofMerkleProof, hentry]
  change (ofEntryChecked e >>= _) = _
  rw [ofEntryChecked_eq_ok hbalances, ofProofField_of_amountsTo hroot, mapM_ofProofField hhashes,
    mapM_ofProofField hsums, hindices]
  change Except.ok _ = Except.ok _
  rw [proofDocument, List.map_map]
  rfl

/-! ### Reading -/

theorem writes_decimal {n : Nat} (h : n < 10 ^ Text.maxDigits) : (decimal n).Writes n :=
  unsigned_eq_ok_iff.mp (unsigned_decimal h)

theorem writesElement_ofScalar (a : Scalar) : (ofScalar a).WritesElement (.scalar a) :=
  ⟨a, writes_decimal (lt_of_lt_groupOrder a.isLt), rfl⟩

theorem listsBy_array {α β : Type} {R : Datum → β → Prop} {write : α → Datum} {f : α → β}
    {xs : List α} (h : ∀ x ∈ xs, R (write x) (f x)) :
    (Datum.array (xs.map write)).ListsBy R (xs.map f) :=
  ⟨_, .array _, List.forall₂_map_left_iff.mpr (List.forall₂_map_right_iff.mpr
    (List.forall₂_same.mpr h))⟩

theorem writesEntry_ofEntry {name : String} {balances : List Nat}
    (h : ∀ b ∈ balances, b < 10 ^ Text.maxDigits) :
    WritesEntry (ofEntry ⟨.text name, balances⟩) ⟨.text name, balances⟩ := by
  refine ⟨_, rfl, ⟨name, rfl, rfl⟩, .inl ⟨_, rfl, ?_⟩⟩
  have hrow := listsBy_array (R := Datum.Writes) (f := id) fun b hb => writes_decimal (h b hb)
  rwa [List.map_id] at hrow

/-- What is read of the document of a proof. -/
theorem merkleProof_proofDocument {name : String} {balances : List Nat}
    (h : ∀ b ∈ balances, b < 10 ^ Text.maxDigits) :
    merkleProof (proofDocument ⟨.text name, balances⟩ rootHash hashes sums sides) =
      .ok ⟨.entry ⟨.text name, balances⟩, .scalar rootHash, hashes.map .scalar,
        sums.map .scalar, sides.map fun (n : Nat) => .integer n⟩ := by
  rw [proofDocument, merkleProof_eq_ok_iff]
  refine ⟨⟨_, _, rfl, writesEntry_ofEntry h, rfl⟩, ⟨_, rfl, writesElement_ofScalar rootHash⟩,
    ⟨_, rfl, ?_⟩, ⟨_, rfl, ?_⟩, ⟨_, rfl, ?_⟩⟩
  · exact listsBy_array fun a _ => writesElement_ofScalar a
  · exact listsBy_array fun a _ => writesElement_ofScalar a
  · exact listsBy_array fun n _ => ⟨n, .integer n, rfl⟩

end Wire

/-! ### Proofs that can be written -/

namespace MerkleProof

open Datum

/-- The values of a proof that stand for field elements. -/
def fieldValues (p : MerkleProof) : List Datum := p.rootHash :: (p.siblingHashes ++ p.siblingSums)

/-- A proof that can be written and read. Nothing is asked of the lengths of its sequences, and
nothing of its sides but that they are natural numbers. -/
structure Writable (p : MerkleProof) : Prop where
  /-- The entry has a text for a name, and balances that are not too long to be written. -/
  claimant : ∃ name balances, p.claimant = .entry ⟨.text name, balances⟩ ∧
    ∀ b ∈ balances, b < 10 ^ Text.maxDigits
  /-- The hashes and the sums are in the range of the field. -/
  fieldValues : ∀ d ∈ p.fieldValues, d.InField
  /-- The sides are natural numbers. -/
  pathIndices : ∀ d ∈ p.pathIndices, ∃ n : Nat, d = .integer n

/-- A proof that has field elements in the places of the values that amount to them, and is the same
in all else. -/
structure ReadBackAs (p q : MerkleProof) : Prop where
  /-- The entry is the same. -/
  claimant : q.claimant = p.claimant
  /-- The hash of the root is read. -/
  rootHash : p.rootHash.IsReadAs q.rootHash
  /-- The hashes of the siblings are read, one by one. -/
  siblingHashes : List.Forall₂ IsReadAs p.siblingHashes q.siblingHashes
  /-- The sums of the siblings are read, one by one. -/
  siblingSums : List.Forall₂ IsReadAs p.siblingSums q.siblingSums
  /-- The sides are the same. -/
  pathIndices : q.pathIndices = p.pathIndices

variable {p q : MerkleProof}

theorem forall₂_isReadAs {values : List Datum} {elements : List Scalar}
    (h : List.Forall₂ AmountsTo values elements) :
    List.Forall₂ IsReadAs values (elements.map .scalar) :=
  List.forall₂_map_right_iff.mpr (h.imp fun _ _ => AmountsTo.isReadAs)

/-! ### The verifier's answer -/

/-- The steps depend on the values only by the field elements that the verifier takes them for. -/
theorem stepsOf_congr {hashes sums hashes' sums' : List Datum} {sides : List Bool}
    (hhashes : List.Forall₂ (fun d d' => d.canonical = d'.canonical) hashes hashes')
    (hsums : List.Forall₂ (fun d d' => d.canonical = d'.canonical) sums sums') :
    stepsOf hashes sums sides = stepsOf hashes' sums' sides := by
  induction hhashes generalizing sums sums' sides with
  | nil => rfl
  | cons hhash _ ih =>
    -- the lengths may differ: the steps end with the shortest of the three sequences
    cases hsums with
    | nil => rfl
    | cons hsum hsums =>
      cases sides with
      | nil => rfl
      | cons right sides =>
        rw [stepsOf, stepsOf, Node.ofData, Node.ofData, hhash, hsum, ih hsums]

theorem forall₂_canonical_eq {values values' : List Datum}
    (h : List.Forall₂ IsReadAs values values') (hvalues : ∀ d ∈ values, d.IsElement) :
    List.Forall₂ (fun d d' => d.canonical = d'.canonical) values values' :=
  ((List.forall₂_and_left values values').mpr ⟨hvalues, h⟩).imp fun _ _ h => h.2.canonical_eq h.1

/-- The verifier's answer is kept where it takes the values for field elements. -/
theorem ReadBackAs.verdict_eq (h : p.ReadBackAs q) (hp : ∀ d ∈ p.fieldValues, d.IsElement) :
    q.verdict = p.verdict := by
  obtain ⟨hroot, hsiblings⟩ := List.forall_mem_cons.mp hp
  obtain ⟨hhashes, hsums⟩ := List.forall_mem_append.mp hsiblings
  have hsides : q.sides? = p.sides? := by
    simp only [sides?, depth, h.pathIndices, h.siblingHashes.length_eq, h.siblingSums.length_eq]
  have hsteps : ∀ sides, stepsOf q.siblingHashes q.siblingSums sides =
      stepsOf p.siblingHashes p.siblingSums sides := fun sides =>
    (stepsOf_congr (forall₂_canonical_eq h.siblingHashes hhashes)
      (forall₂_canonical_eq h.siblingSums hsums)).symm
  have hcheck : q.check = p.check := by
    simp only [check, MerkleProof.entry, h.claimant, hsides, hsteps,
      h.rootHash.canonical_eq hroot]
  rw [verdict, verdict, hcheck]

theorem Writable.not_runsTooDeep (h : p.Writable) : ¬p.RunsTooDeep := by
  refine MerkleProof.not_runsTooDeep fun d hd => ?_
  have hmem : d ∈ p.fieldValues := by
    simp only [MerkleProof.fieldValues, List.mem_cons, List.mem_append]
    tauto
  obtain hd | ⟨b, rfl⟩ := (h.fieldValues d hmem).isElement_or_bool
  · exact hd.obstacle?_ne_tooDeep
  · simp

/-- A proof with a truth value in the place of a field element is refused. -/
theorem verdict_of_bool {b : Bool} (hp : p.Writable) (h : .bool b ∈ p.fieldValues) :
    p.verdict = .ok false := by
  rw [verdict_eq_ok_verify hp.not_runsTooDeep]
  refine congrArg Except.ok (Bool.eq_false_iff.mpr fun haccepted => ?_)
  have hconsistent := verify_eq_true_iff_consistent.mp haccepted
  have helements : ∀ d ∈ p.fieldValues, d.IsElement :=
    List.forall_mem_cons.mpr ⟨hconsistent.rootHash,
      List.forall_mem_append.mpr ⟨hconsistent.siblingHashes, hconsistent.siblingSums⟩⟩
  exact helements _ h

/-- A proof that can be written is read back, whether it fits together or not: the entry, the sides
and the field elements in their order. The verifier gives one answer to both, unless a truth value
stands for a field element, and then it refuses the proof that has been written. -/
theorem exists_readBack (h : p.Writable) :
    ∃ d q, Wire.ofMerkleProof p = .ok d ∧ Wire.merkleProof d = .ok q ∧ p.ReadBackAs q ∧
      ((∀ b, .bool b ∉ p.fieldValues) → q.verdict = p.verdict) ∧
      ((∃ b, .bool b ∈ p.fieldValues) → p.verdict = .ok false) := by
  have hrefused : ∀ b, .bool b ∈ p.fieldValues → p.verdict = .ok false := fun _ => verdict_of_bool h
  obtain ⟨⟨name, balances, hclaimant, hbalances⟩, hfield, hindices⟩ := h
  obtain ⟨hroot, hsiblings⟩ := List.forall_mem_cons.mp hfield
  obtain ⟨hhashes, hsums⟩ := List.forall_mem_append.mp hsiblings
  obtain ⟨a, ha⟩ := hroot.exists_amountsTo
  obtain ⟨hs, hhs⟩ := exists_forall₂ fun d hd => (hhashes d hd).exists_amountsTo
  obtain ⟨ss, hss⟩ := exists_forall₂ fun d hd => (hsums d hd).exists_amountsTo
  obtain ⟨sides, hsides⟩ := exists_forall₂ hindices
  have hsides : p.pathIndices = sides.map fun (n : Nat) => .integer n := by
    rwa [← List.forall₂_eq_eq_eq, List.forall₂_map_right_iff]
  -- what is read has field elements where the proof may have had integers
  have hread : p.ReadBackAs ⟨.entry ⟨.text name, balances⟩, .scalar a, hs.map .scalar,
      ss.map .scalar, sides.map fun (n : Nat) => .integer n⟩ :=
    ⟨hclaimant.symm, ha.isReadAs, forall₂_isReadAs hhs, forall₂_isReadAs hss, hsides.symm⟩
  refine ⟨_, _, Wire.ofMerkleProof_eq_ok hclaimant hbalances ha hhs hss hsides,
    Wire.merkleProof_proofDocument hbalances, hread, fun hno => ?_, fun ⟨b, hb⟩ => hrefused b hb⟩
  refine hread.verdict_eq fun d hd => (hfield d hd).isElement_or_bool.resolve_right ?_
  rintro ⟨b, rfl⟩
  exact hno b hd

/-- The proof of one of two users, with an integer for the balance of the other. -/
def ofInteger : MerkleProof := { ofTwoUsers false with siblingSums := [.integer 7] }

theorem exists_readBack_ofInteger :
    ofInteger.Writable ∧
      ∃ d q, Wire.ofMerkleProof ofInteger = .ok d ∧ Wire.merkleProof d = .ok q ∧
        ofInteger.ReadBackAs q ∧ q.verdict = .ok true := by
  have hwritable : ofInteger.Writable :=
    ⟨⟨"a", [5], rfl, List.forall_mem_singleton.mpr (Wire.lt_of_lt_groupOrder (by decide))⟩,
      List.forall_mem_cons.mpr ⟨trivial, List.forall_mem_cons.mpr ⟨trivial,
        List.forall_mem_singleton.mpr ⟨by decide, by decide⟩⟩⟩,
      List.forall_mem_singleton.mpr ⟨0, rfl⟩⟩
  have haccepted : ofInteger.verify = true := by decide +kernel
  obtain ⟨d, q, hd, hq, hread, hverdict, -⟩ := exists_readBack hwritable
  refine ⟨hwritable, d, q, hd, hq, hread, ?_⟩
  rw [hverdict (by simp [fieldValues, ofInteger, ofTwoUsers]), verdict_of_verify haccepted]

/-! ### Truth values -/

/-- A node of balance one, to the right of a user. -/
def unitStep : Step := ⟨⟨0, 1⟩, false⟩

/-- The proof of a user who stands beside that node. -/
def ofUnit : MerkleProof :=
  let leaf := Node.ofPair (Scalar.encode (Entry.identityOf "a")) (Scalar.encode 5)
  ofSteps ⟨.text "a", [5]⟩ (unitStep.up leaf).hash [unitStep]

theorem verify_ofUnit : ofUnit.verify = true :=
  verify_eq_true_iff.mpr ⟨_, reads_ofSteps "a" 5 _ [unitStep], rfl⟩

/-- A truth value in the place of the balance of one is refused by the verifier, and read back as
the number that it accepts. -/
theorem exists_readBack_accepted :
    { ofUnit with siblingSums := [.bool true] }.Writable ∧
      { ofUnit with siblingSums := [.bool true] }.verdict = .ok false ∧
      ∃ d q, Wire.ofMerkleProof { ofUnit with siblingSums := [.bool true] } = .ok d ∧
        Wire.merkleProof d = .ok q ∧ q.verdict = .ok true := by
  have hbalances : ∀ b ∈ [5], b < 10 ^ Text.maxDigits :=
    List.forall_mem_singleton.mpr (Wire.lt_of_lt_groupOrder (by decide))
  have hroot : ofUnit.rootHash.AmountsTo ofUnit.rootHash.element := rfl
  have hhashes : List.Forall₂ AmountsTo [.scalar 0] [0] := .cons rfl .nil
  have hsums : List.Forall₂ AmountsTo [.bool true] [1] := .cons rfl .nil
  have hsides : ofUnit.pathIndices = [0].map fun (n : Nat) => .integer n := rfl
  have hwritable : { ofUnit with siblingSums := [.bool true] }.Writable :=
    ⟨⟨"a", [5], rfl, hbalances⟩, List.forall_mem_cons.mpr ⟨trivial, List.forall_mem_cons.mpr
      ⟨trivial, List.forall_mem_singleton.mpr trivial⟩⟩, List.forall_mem_singleton.mpr ⟨0, rfl⟩⟩
  exact ⟨hwritable, verdict_of_bool (b := true) hwritable (by simp [fieldValues]), _, ofUnit,
    Wire.ofMerkleProof_eq_ok rfl hbalances hroot hhashes hsums hsides,
    Wire.merkleProof_proofDocument hbalances, verdict_of_verify verify_ofUnit⟩

end MerkleProof

end LiabilityProof
