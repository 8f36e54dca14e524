import LiabilityProof.Proofs.Curve.Bytes
import LiabilityProof.Proofs.Epoch.InclusionProof

/-!
# The published commitment and the issued proofs

A ledger that has room in the domain becomes a snapshot, and no column of it differs from what
the entries claim (`not_differs_of_eval`). So the proof of every user is issued, and its pieces
open the pieces of the published commitment at the user's row (`exists_opensCommitment`).
-/

namespace LiabilityProof

open scoped Residue

namespace Snapshot

variable {E : PairingGroups} {τ : Scalar} {s : Snapshot}

/-- The published commitment is made of the values of the columns at the secret. -/
theorem commitment_of_honest (hE : E.Lawful) {d : Nat} (hsetup : s.setup.Honest E τ d) :
    s.commitment E =
      .ok ((s.columns.map fun f => E.first.multiple (f.eval τ)).map G1.toBytes).flatten := by
  have hcommit : ∀ f ∈ s.columns,
      Kzg.commit E f s.setup.parameters.key = .ok (E.first.multiple (f.eval τ)) := by
    intro f hf
    rw [hsetup.parameters_key, Kzg.commit_ofSecret hE (degree_le_of_honest hsetup hf)]
  rw [commitment, columnCommitments, mapM_eq_ok_map hcommit, Except.map, List.flatMap_def]

/-- Snapshots with columns that have different values at the secret have different commitments. -/
theorem commitment_ne_of_eval_ne (hE : E.Lawful) (hzero : ∀ a, E.first.multiple a ≠ .affine 0 0)
    {s s' : Snapshot} {d d' : Nat} (hs : s.setup.Honest E τ d) (hs' : s'.setup.Honest E τ d')
    {j : Nat} {f f' : Poly} (hf : s.columns[j]? = some f) (hf' : s'.columns[j]? = some f')
    (hne : f.eval τ ≠ f'.eval τ) : s.commitment E ≠ s'.commitment E := by
  rw [commitment_of_honest hE hs, commitment_of_honest hE hs']
  intro h
  have hpoint : (s.columns.map fun f => E.first.multiple (f.eval τ))[j]? =
      some (E.first.multiple (f.eval τ)) := by rw [List.getElem?_map, hf]; rfl
  have hpoint' : (s'.columns.map fun f => E.first.multiple (f.eval τ))[j]? =
      some (E.first.multiple (f'.eval τ)) := by rw [List.getElem?_map, hf']; rfl
  -- the points can be read off their pieces
  have hbytes : G1.toBytes (E.first.multiple (f.eval τ)) =
      G1.toBytes (E.first.multiple (f'.eval τ)) := by
    rw [← G1.piece_flatten_toBytes hpoint, ← G1.piece_flatten_toBytes hpoint', Except.ok.inj h]
  have hread := congrArg G1.ofBytes hbytes
  rw [G1.ofBytes_toBytes (hzero _), G1.ofBytes_toBytes (hzero _)] at hread
  exact hne (hE.first.multiple_injective (Except.ok.inj hread))

/-- Columns with the values of the rows do not differ from the entries. -/
theorem not_differs_of_eval {entries : List Entry} {i : Nat} {name : String}
    {balances : List Nat} (he : entries[i]? = some ⟨.text name, balances⟩)
    (hvalues : ∀ (j : Nat) (f : Poly), s.columns[j]? = some f →
      f.eval (s.setup.domain.point i) = ((entries.map Columns.row).getD i []).getD j 0) (j : Nat) :
    ¬s.Differs i (Columns.rowValues name balances) j := by
  have hrow : (entries.map Columns.row).getD i [] = Columns.rowValues name balances := by
    rw [List.getD_eq_getElem?_getD, List.getElem?_map, he]
    rfl
  rintro ⟨f, value, hf, hvalue, hne⟩
  rw [hvalues j f hf, hrow, List.getD_eq_getElem?_getD, hvalue] at hne
  exact hne rfl

/-- The pieces of a proof open the pieces of the commitment. -/
theorem verify_piece (hE : E.Lawful) (hzero : ∀ a, E.first.multiple a ≠ .affine 0 0)
    {columns : List Poly} {j : Nat} {f : Poly} (hf : columns[j]? = some f) (z : Scalar) :
    ∃ opening commitment,
      G1.ofBytes (G1.piece ((columns.map fun f => E.first.multiple
        ((f.quotient z).eval τ)).map G1.toBytes).flatten j) = .ok opening ∧
      G1.ofBytes (G1.piece ((columns.map fun f => E.first.multiple
        (f.eval τ)).map G1.toBytes).flatten j) = .ok commitment ∧
      Kzg.verify E commitment opening z (f.eval z)
        [E.second.generator, E.second.multiple τ] = .ok true := by
  have hget : ∀ g : Poly → G1Point, (columns.map g)[j]? = some (g f) := fun g => by
    rw [List.getElem?_map, hf]
    rfl
  refine ⟨E.first.multiple ((f.quotient z).eval τ), E.first.multiple (f.eval τ), ?_, ?_, ?_⟩
  · rw [G1.piece_flatten_toBytes (hget _), G1.ofBytes_toBytes (hzero _)]
  · rw [G1.piece_flatten_toBytes (hget _), G1.ofBytes_toBytes (hzero _)]
  · rw [Kzg.verify_quotient hE, decide_eq_true rfl]

/-- The proofs of all users are issued and open the commitment that is published. There are as
many points in either as columns, and each point of a proof opens the point of the same index at
the user's row, to the identity or to a balance. -/
def OpensCommitment (E : PairingGroups) (s : Snapshot) (entries : List Entry)
    (currencies : Nat) : Prop :=
  ∀ (i : Nat) (name : String) (balances : List Nat), entries[i]? = some ⟨.text name, balances⟩ →
    ∃ proof bytes, s.inclusionProof E (.integer i) entries = .ok proof ∧
      s.commitment E = .ok bytes ∧
      proof.calldata.length = 64 * (currencies + 1) ∧
      bytes.length = 64 * (currencies + 1) ∧
      ∀ (j : Nat) (y : Scalar), (Columns.rowValues name balances)[j]? = some y →
        ∃ opening commitment, G1.ofBytes (G1.piece proof.calldata j) = .ok opening ∧
          G1.ofBytes (G1.piece bytes j) = .ok commitment ∧
          Kzg.verify E commitment opening (s.setup.domain.root ^ i) y
            s.setup.verifyingKey.powers2 = .ok true

/-- It is enough that the columns have the values of the rows. -/
theorem opensCommitment_of_eval (hE : E.Lawful) (hzero : ∀ a, E.first.multiple a ≠ .affine 0 0)
    {d : Nat} (hsetup : s.setup.Honest E τ d) (hschedule : s.schedule ≠ .unusable)
    {entries : List Entry} {currencies : Nat} (hcolumns : s.columns.length = currencies + 1)
    (hbalances : ∀ e ∈ entries, e.balances.length = currencies)
    (hvalues : ∀ (j : Nat) (f : Poly), s.columns[j]? = some f → ∀ i < entries.length,
      f.eval (s.setup.domain.point i) = ((entries.map Columns.row).getD i []).getD j 0) :
    s.OpensCommitment E entries currencies := by
  intro i name balances he
  have hi : i < entries.length := (List.getElem?_eq_some_iff.mp he).1
  have hlength : balances.length = currencies := hbalances _ (List.mem_of_getElem? he)
  have hagrees := not_differs_of_eval he fun j f hf => hvalues j f hf i hi
  have hproof := (inclusionProof_ofNat he).trans
    (prove_of_not_differs hE hsetup hschedule (by rw [hlength, width, hcolumns]) hagrees)
  refine ⟨_, _, hproof, commitment_of_honest hE hsetup, ?_, ?_, fun j y hy => ?_⟩
  · rw [G1.length_flatten_toBytes, List.length_map]
    exact congrArg (64 * ·) hcolumns
  · rw [G1.length_flatten_toBytes, List.length_map]
    exact congrArg (64 * ·) hcolumns
  · have hj : j < s.columns.length := by
      have hj := (List.getElem?_eq_some_iff.mp hy).1
      rw [Columns.length_rowValues] at hj
      omega
    obtain ⟨f, hf⟩ : ∃ f, s.columns[j]? = some f := ⟨_, List.getElem?_eq_getElem hj⟩
    -- the claimed value is that of the column, since nothing differs
    have heval : f.eval (s.setup.domain.root ^ i) = y :=
      by_contra fun hne => hagrees j ⟨f, y, hf, hy, hne⟩
    rw [hsetup.powers2, ← heval]
    exact verify_piece hE hzero hf _

end Snapshot

/-- The published commitment and the issued proofs of a ledger fit together. Whatever ledger has
room in the domain, its columns can be made and tied to every set-up of parameters that reach the
last row, and the proofs of the users open the commitment. -/
theorem exists_opensCommitment {E : PairingGroups} (hE : E.Lawful)
    (hzero : ∀ a, E.first.multiple a ≠ .affine 0 0) (τ : Scalar) {k currencies : Nat}
    (hk : k ≤ 28) (hcurrencies : 1 ≤ currencies) {d : Int} (hd : ((2 ^ k : Nat) : Int) - 1 ≤ d)
    (provenance : Datum) {schedule : Schedule} (hschedule : schedule ≠ .unusable)
    {entries : List Entry} (hroom : entries.length ≤ 2 ^ k)
    (hentries : ∀ e ∈ entries, e.balances.length = currencies ∧ ∃ name, e.username = .text name) :
    ∃ setup columns s,
      TrustedSetup.bind (Parameters.generate E τ d) (.integer k) (.integer currencies) provenance =
        .ok setup ∧
      Columns.polynomials entries (.integer currencies) setup.domain = .ok columns ∧
      Snapshot.make columns entries setup schedule = .ok s ∧
      s.OpensCommitment E entries currencies := by
  obtain ⟨setup, hbind, hdomain, hsetup⟩ :=
    TrustedSetup.exists_bind_eq_ok E τ hk hcurrencies hd provenance
  obtain ⟨d, rfl, hhonest⟩ := TrustedSetup.honest_of_bind hbind
  have hsize : setup.domain.size = 2 ^ k := by rw [hdomain]; rfl
  obtain ⟨columns, hcolumns, hlength, hvalues⟩ := Columns.polynomials_eq_ok
    (by rw [hdomain]; exact hk) (by rw [hdomain]; exact Scalar.halfTurn_twoPowerRoot hk)
    (hroom.trans hsize.ge) hentries
  have hfits : Snapshot.mismatch? columns entries setup = none := by
    refine Snapshot.mismatch?_eq_none hsetup hlength (fun f hf => ?_) (hroom.trans hsize.ge)
      fun e he => (hentries e he).1
    obtain ⟨j, hj⟩ := List.mem_iff_getElem?.mp hf
    exact (hvalues j f hj).1
  refine ⟨setup, columns, _, hbind, hcolumns, Snapshot.make_eq_ok hfits, ?_⟩
  refine Snapshot.opensCommitment_of_eval hE hzero hhonest hschedule hlength
    (fun e he => (hentries e he).1) fun j f hf i hi => ?_
  exact (hvalues j f hf).2 i (hi.trans_le (hroom.trans hsize.ge))

/-- Two users of one currency, the second with a name and a balance that count as zero, under a
secret that is a point of the domain. -/
theorem exists_opensCommitment_two_users :
    ∃ setup columns s,
      TrustedSetup.bind (Parameters.generate .bn254Logarithms 1 1) (.integer 1) (.integer 1) .null =
        .ok setup ∧
      Columns.polynomials [⟨.text "a", [7]⟩, ⟨.text "", [groupOrder]⟩] (.integer 1) setup.domain =
        .ok columns ∧
      Snapshot.make columns [⟨.text "a", [7]⟩, ⟨.text "", [groupOrder]⟩] setup .inTurn = .ok s ∧
      s.OpensCommitment .bn254Logarithms [⟨.text "a", [7]⟩, ⟨.text "", [groupOrder]⟩] 1 :=
  exists_opensCommitment PairingGroups.bn254Logarithms_lawful
    PairingGroups.bn254_first_multiple_ne_zero 1 (by decide : 1 ≤ 28) le_rfl (by decide) .null
    (by simp) (by decide) (by simp)

end LiabilityProof
