import LiabilityProof.Proofs.Curve.Groups
import LiabilityProof.Proofs.Epoch.Schedule
import LiabilityProof.Proofs.Epoch.Snapshot
import LiabilityProof.Proofs.Text.Decimal

/-!
# What comes of asking for an inclusion proof

Under honest parameters the opening of a column is accepted exactly when the column has the
claimed value in the user's row (`openColumnAt_of_honest`). The openings of a row are run by the
snapshot's schedule, and so the first column that differs from the claim decides, in whatever
order a pool finishes. `inclusionProof_outcome` is the outcome for every index, every entry list
and columns that need not be those of the entries.

An index that is none of an entry is shown in the message that refuses it, and the attempt fails in
another way where it cannot be shown: an integer of too many digits, an array or an object that has
one in it or has too many levels.
-/

namespace LiabilityProof

open scoped Residue

namespace Snapshot

/-- In the row `i`, the column `j` has another value than the one claimed. -/
def Differs (s : Snapshot) (i : Nat) (claims : List Scalar) (j : Nat) : Prop :=
  ∃ f value, s.columns[j]? = some f ∧ claims[j]? = some value ∧
    f.eval (s.setup.domain.point i) ≠ value

/-- The column `j` is the first to have another value in the row `i`. -/
def FirstDiffers (s : Snapshot) (i : Nat) (claims : List Scalar) (j : Nat) : Prop :=
  s.Differs i claims j ∧ ∀ j' < j, ¬s.Differs i claims j'

variable {E : PairingGroups} {τ : Scalar} {s : Snapshot}

/-! ### One column -/

/-- The opening of a column is accepted exactly when the column has the claimed value. -/
theorem openColumnAt_of_honest (hE : E.Lawful) {d : Nat} (hsetup : s.setup.Honest E τ d)
    {user : Datum} {z : Scalar} {e : Entry} {j : Nat} {f : Poly} (hf : s.columns[j]? = some f)
    {value : Scalar} (hvalue : claimedValue e (.integer j) = .ok value) :
    s.openColumnAt E user (.ok z) e (.integer j) =
      if f.eval z = value then .ok (G1.toBytes (E.first.multiple ((f.quotient z).eval τ)))
      else .error (.selfCheck user (.integer j)) := by
  have hdegree : f.degree ≤ d := degree_le_of_honest hsetup (List.mem_of_getElem? hf)
  have hcommit : Kzg.commit E f s.setup.parameters.key = .ok (E.first.multiple (f.eval τ)) := by
    rw [hsetup.parameters_key, Kzg.commit_ofSecret hE hdegree]
  have hopen : Kzg.openAt E f z value s.setup.provingKey.key =
      .ok (E.first.multiple ((f.quotient z).eval τ)) := by
    rw [hsetup.provingKey_key, Kzg.openAt_ofSecret hE hdegree]
  have hverify : Kzg.verify E (E.first.multiple (f.eval τ))
      (E.first.multiple ((f.quotient z).eval τ)) z value s.setup.verifyingKey.powers2 =
      .ok (decide (f.eval z = value)) := by
    rw [hsetup.powers2, Kzg.verify_quotient hE]
    exact congrArg Except.ok (decide_eq_decide.mpr eq_comm)
  rw [openColumnAt, column_ofNat hf]
  change (Kzg.commit E f s.setup.parameters.key >>= fun commitment => _) = _
  rw [hcommit]
  change (claimedValue e (.integer j) >>= fun value => _) = _
  rw [hvalue]
  change (Kzg.openAt E f z value s.setup.provingKey.key >>= fun opening => _) = _
  rw [hopen]
  change (Kzg.verify E (E.first.multiple (f.eval τ)) (E.first.multiple ((f.quotient z).eval τ)) z
    value s.setup.verifyingKey.powers2 >>= fun accepted => _) = _
  rw [hverify]
  change (if decide (f.eval z = value) = true then _ else _) = _
  simp only [decide_eq_true_iff]
  rfl

/-! ### One row -/

/-- The index of an entry leads to that entry. -/
theorem inclusionProof_ofNat {entries : List Entry} {i : Nat} {e : Entry}
    (he : entries[i]? = some e) :
    s.inclusionProof E (.integer i) entries = s.prove E i e := by
  have hrow : (if (0 : Int) ≤ i then entries[(i : Int).toNat]? else none) = some e := by
    rw [if_pos (Int.natCast_nonneg i)]
    exact he
  rw [inclusionProof]
  simp only [hrow]
  rfl

/-- What is no index of an entry is refused with a message that shows it. -/
theorem inclusionProof_of_not_index {user : Datum} {entries : List Entry}
    (h : ¬∃ i : Nat, user = .integer i ∧ i < entries.length) :
    ∃ failure, s.inclusionProof E user entries = .error (.showing [user] failure) ∧
      failure.kind = .outOfRange := by
  cases user
  case integer n =>
    have hrow : (if 0 ≤ n then entries[n.toNat]? else none) = none := by
      split
      next hn =>
        refine List.getElem?_eq_none (not_lt.mp fun hlt => h ⟨n.toNat, ?_, hlt⟩)
        rw [Int.toNat_of_nonneg hn]
      next => rfl
    refine ⟨.userOutOfRange n entries.length, ?_, rfl⟩
    rw [inclusionProof]
    simp only [hrow]
  all_goals exact ⟨_, rfl, rfl⟩

/-- What is no index of an entry is out of range, if it can be shown. -/
theorem inclusionProof_of_shown {user : Datum} {entries : List Entry}
    (h : ¬∃ i : Nat, user = .integer i ∧ i < entries.length) (hshown : user.obstacle? = none) :
    ∃ failure, s.inclusionProof E user entries = .error failure ∧ failure.kind = .outOfRange := by
  obtain ⟨failure, hfailure, hkind⟩ := inclusionProof_of_not_index (E := E) (s := s) h
  rw [Failure.showing_of_forall (List.forall_mem_singleton.mpr hshown)] at hfailure
  exact ⟨failure, hfailure, hkind⟩

/-- What is no index of an entry and cannot be shown is refused for that. -/
theorem inclusionProof_of_not_shown {user : Datum} {entries : List Entry}
    (h : ¬∃ i : Nat, user = .integer i ∧ i < entries.length) {obstacle : Datum.Obstacle}
    (hobstacle : user.obstacle? = some obstacle) :
    s.inclusionProof E user entries = .error (.ofObstacle obstacle) := by
  obtain ⟨failure, hfailure, -⟩ := inclusionProof_of_not_index (E := E) (s := s) h
  rw [hfailure, Failure.showing_singleton, hobstacle]
  rfl

/-- An entry with another number of balances than the columns have is refused. -/
theorem prove_of_length_ne {i : Nat} {e : Entry} (h : e.balances.length + 1 ≠ s.width) :
    s.prove E i e = .error (.showing [e.username]
      (.balanceCount e.username e.balances.length (.integer ((s.width : Int) - 1)))) :=
  if_pos (by omega)

/-- An entry with a balance for each currency has its columns opened. -/
theorem prove_of_length_eq {i : Nat} {e : Entry} (h : e.balances.length + 1 = s.width) :
    s.prove E i e =
      (s.schedule.run s.width fun j => s.openColumnAt E (.integer i)
        (.ok (s.setup.domain.point i)) e (.integer j)).map fun openings =>
          ⟨openings.flatten, []⟩ :=
  if_neg (by omega)

section Outcome

variable (hE : E.Lawful) {d : Nat} (hsetup : s.setup.Honest E τ d)
  (hschedule : s.schedule ≠ .unusable) {i : Nat} {name : String} {balances : List Nat}
  (hwidth : balances.length + 1 = s.width)

include hE hsetup hwidth in
/-- Every column of a row has a claim, and its opening is decided by it. -/
theorem exists_openColumnAt (i : Nat) (name : String) {j : Nat} (hj : j < s.width) :
    ∃ f value, s.columns[j]? = some f ∧ (Columns.rowValues name balances)[j]? = some value ∧
      s.openColumnAt E (.integer i) (.ok (s.setup.domain.point i)) ⟨.text name, balances⟩
          (.integer j) =
        if f.eval (s.setup.domain.point i) = value then
          .ok (G1.toBytes (E.first.multiple ((f.quotient (s.setup.domain.point i)).eval τ)))
        else .error (.selfCheck (.integer i) (.integer j)) := by
  obtain ⟨f, hf⟩ : ∃ f, s.columns[j]? = some f := ⟨_, List.getElem?_eq_getElem hj⟩
  obtain ⟨value, hvalue⟩ : ∃ value, (Columns.rowValues name balances)[j]? = some value :=
    ⟨_, List.getElem?_eq_getElem (by rw [Columns.length_rowValues]; omega)⟩
  exact ⟨f, value, hf, hvalue, openColumnAt_of_honest hE hsetup hf (claimedValue_ofNat hvalue)⟩

include hE hsetup hschedule hwidth in
/-- The first column that differs from the claim makes the proof fail. -/
theorem prove_of_firstDiffers {j : Nat}
    (h : s.FirstDiffers i (Columns.rowValues name balances) j) :
    s.prove E i ⟨.text name, balances⟩ = .error (.selfCheck (.integer i) (.integer j)) := by
  obtain ⟨hj, hbefore⟩ := h
  have hlt : j < s.width := by
    obtain ⟨f, -, hf, -⟩ := hj
    exact (List.getElem?_eq_some_iff.mp hf).1
  rw [prove_of_length_eq hwidth, Schedule.run_eq_error hschedule hlt]
  · rfl
  · intro j' hj'
    obtain ⟨f, value, hf, hvalue, hopen⟩ :=
      exists_openColumnAt hE hsetup hwidth i name (hj'.trans hlt)
    have heq : f.eval (s.setup.domain.point i) = value :=
      by_contra fun hne => hbefore j' hj' ⟨f, value, hf, hvalue, hne⟩
    rw [hopen, if_pos heq]
    exact ⟨_, rfl⟩
  · obtain ⟨f, value, hf, hvalue, hopen⟩ :=
      exists_openColumnAt hE hsetup hwidth i name hlt
    obtain ⟨f', value', hf', hvalue', hne⟩ := hj
    rw [hf, Option.some_inj] at hf'
    rw [hvalue, Option.some_inj] at hvalue'
    rw [hopen, if_neg (by rwa [hf', hvalue'])]

include hE hsetup hschedule hwidth in
/-- A row without a column that differs from the claim is proved by its openings. -/
theorem prove_of_not_differs
    (hall : ∀ j, ¬s.Differs i (Columns.rowValues name balances) j) :
    s.prove E i ⟨.text name, balances⟩ =
      .ok ⟨((s.columns.map fun f => E.first.multiple
        ((f.quotient (s.setup.domain.point i)).eval τ)).map G1.toBytes).flatten, []⟩ := by
  have hrun : ∀ (j : Nat) (f : Poly), s.columns[j]? = some f → s.openColumnAt E (.integer i)
      (.ok (s.setup.domain.point i)) ⟨.text name, balances⟩ (.integer j) =
        .ok (G1.toBytes (E.first.multiple ((f.quotient (s.setup.domain.point i)).eval τ))) := by
    intro j f hf
    obtain ⟨f', value, hf', hvalue, hopen⟩ := exists_openColumnAt hE hsetup hwidth i name
      (List.getElem?_eq_some_iff.mp hf).1
    rw [hf, Option.some_inj] at hf'
    subst hf'
    have heq : f.eval (s.setup.domain.point i) = value :=
      by_contra fun hne => hall j ⟨f, value, hf, hvalue, hne⟩
    rw [hopen, if_pos heq]
  rw [prove_of_length_eq hwidth, width, Schedule.run_eq_ok hschedule hrun, List.map_map]
  rfl

include hE hsetup hschedule in
/-- The three ends that proving a row can come to. -/
theorem prove_cases (i : Nat) (name : String) (balances : List Nat) :
    (balances.length + 1 ≠ s.width ∧ ∃ failure,
        s.prove E i ⟨.text name, balances⟩ = .error failure ∧ failure.kind = .configuration) ∨
      (balances.length + 1 = s.width ∧ ∃ j : Nat,
        s.prove E i ⟨.text name, balances⟩ = .error (.selfCheck (.integer i) (.integer j)) ∧
        s.FirstDiffers i (Columns.rowValues name balances) j) ∨
      (balances.length + 1 = s.width ∧
        (∀ j, ¬s.Differs i (Columns.rowValues name balances) j) ∧
        s.prove E i ⟨.text name, balances⟩ =
          .ok ⟨((s.columns.map fun f => E.first.multiple
            ((f.quotient (s.setup.domain.point i)).eval τ)).map G1.toBytes).flatten, []⟩) := by
  classical
  by_cases hwidth : balances.length + 1 = s.width
  · right
    by_cases hdiffers : ∃ j, s.Differs i (Columns.rowValues name balances) j
    · -- the least of them is the one that is reported
      have hfirst : s.FirstDiffers i (Columns.rowValues name balances) (Nat.find hdiffers) :=
        ⟨Nat.find_spec hdiffers, fun _ => Nat.find_min hdiffers⟩
      exact .inl ⟨hwidth, _, prove_of_firstDiffers hE hsetup hschedule hwidth hfirst, hfirst⟩
    · have hall := not_exists.mp hdiffers
      exact .inr ⟨hwidth, hall, prove_of_not_differs hE hsetup hschedule hwidth hall⟩
  · exact .inl ⟨hwidth, _, prove_of_length_ne hwidth, rfl⟩

include hE hsetup hschedule in
/-- A row that exists is not refused as out of range. -/
theorem prove_kind_ne_outOfRange {failure : Failure}
    (h : s.prove E i ⟨.text name, balances⟩ = .error failure) : failure.kind ≠ .outOfRange := by
  obtain ⟨-, failure', hprove, hkind⟩ | ⟨-, j, hprove, -⟩ | ⟨-, -, hprove⟩ :=
    prove_cases hE hsetup hschedule i name balances
  · rw [Except.error.inj (h.symm.trans hprove), hkind]
    simp
  · rw [Except.error.inj (h.symm.trans hprove)]
    simp [Failure.kind]
  · exact absurd (h.symm.trans hprove) (by simp)

include hE hsetup hschedule in
/-- The configuration is wrong exactly where the number of balances is. -/
theorem prove_configuration_iff :
    (∃ failure, s.prove E i ⟨.text name, balances⟩ = .error failure ∧
      failure.kind = .configuration) ↔ balances.length + 1 ≠ s.width := by
  constructor
  · rintro ⟨failure, h, hkind⟩ hwidth
    obtain ⟨hne, -⟩ | ⟨-, j, hprove, -⟩ | ⟨-, -, hprove⟩ :=
      prove_cases hE hsetup hschedule i name balances
    · exact hne hwidth
    · rw [Except.error.inj (h.symm.trans hprove)] at hkind
      exact absurd hkind (by simp [Failure.kind])
    · exact absurd (h.symm.trans hprove) (by simp)
  · intro hne
    exact ⟨_, prove_of_length_ne hne, rfl⟩

include hE hsetup hschedule hwidth in
/-- The check of a column fails exactly where the first column differs from the claim. -/
theorem prove_eq_selfCheck_iff {j : Nat} :
    s.prove E i ⟨.text name, balances⟩ = .error (.selfCheck (.integer i) (.integer j)) ↔
      s.FirstDiffers i (Columns.rowValues name balances) j := by
  refine ⟨fun h => ?_, prove_of_firstDiffers hE hsetup hschedule hwidth⟩
  obtain ⟨hne, -⟩ | ⟨-, j', hprove, hfirst⟩ | ⟨-, -, hprove⟩ :=
    prove_cases hE hsetup hschedule i name balances
  · exact absurd hwidth hne
  · simp only [hprove, Except.error.injEq, Failure.selfCheck.injEq, Datum.integer.injEq,
      Nat.cast_inj, true_and] at h
    rwa [← h]
  · exact absurd (h.symm.trans hprove) (by simp)

end Outcome

/-- What comes of asking for the proof of a user. -/
structure Outcome (E : PairingGroups) (τ : Scalar) (s : Snapshot) (entries : List Entry)
    (user : Datum) : Prop where
  /-- Out of range is what is no index of an entry and can be shown. -/
  outOfRange :
    (∃ failure, s.inclusionProof E user entries = .error failure ∧ failure.kind = .outOfRange) ↔
      (¬∃ i : Nat, user = .integer i ∧ i < entries.length) ∧ user.obstacle? = none
  /-- What is no index of an entry and cannot be shown fails for what keeps it from being shown. -/
  notShown : (¬∃ i : Nat, user = .integer i ∧ i < entries.length) → ∀ obstacle,
    user.obstacle? = some obstacle →
    s.inclusionProof E user entries = .error (.ofObstacle obstacle)
  /-- Among the indices, the configuration is wrong where the number of balances is. -/
  configuration : ∀ (i : Nat) (name : String) (balances : List Nat), user = .integer i →
    entries[i]? = some ⟨.text name, balances⟩ →
    ((∃ failure, s.inclusionProof E user entries = .error failure ∧
        failure.kind = .configuration) ↔
      balances.length + 1 ≠ s.width)
  /-- Among the entries that fit, the first column that differs fails its check. -/
  selfCheck : ∀ (i : Nat) (name : String) (balances : List Nat), user = .integer i →
    entries[i]? = some ⟨.text name, balances⟩ → balances.length + 1 = s.width → ∀ j : Nat,
    (s.inclusionProof E user entries = .error (.selfCheck user (.integer j)) ↔
      s.FirstDiffers i (Columns.rowValues name balances) j)
  /-- Where none differs, the proof is the bytes of the quotients at the secret. -/
  proof : ∀ (i : Nat) (name : String) (balances : List Nat), user = .integer i →
    entries[i]? = some ⟨.text name, balances⟩ → balances.length + 1 = s.width →
    (∀ j, ¬s.Differs i (Columns.rowValues name balances) j) →
    s.inclusionProof E user entries = .ok ⟨((s.columns.map fun f =>
      let z := s.setup.domain.point i
      E.first.multiple (((f.toPolynomial - Polynomial.C (f.eval z)) /ₘ
        (Polynomial.X - Polynomial.C z)).eval τ)).map G1.toBytes).flatten, []⟩

/-- The outcome for every index and every list of entries with text for names, whether or not the
columns were made from them. An index that is none of an entry is out of range, or it cannot be
shown, and this is the failure; then a wrong number of balances does not fit the configuration; then
the first column whose value differs from the claim fails its self-check; and otherwise the proof is
the bytes of the openings. -/
theorem inclusionProof_outcome (hE : E.Lawful) {d : Int} {k currencies provenance : Datum}
    (hsetup : TrustedSetup.bind (Parameters.generate E τ d) k currencies provenance =
      .ok s.setup)
    (hschedule : s.schedule ≠ .unusable) {entries : List Entry}
    (hnames : ∀ e ∈ entries, ∃ name, e.username = .text name) (user : Datum) :
    s.Outcome E τ entries user := by
  obtain ⟨d, rfl, hhonest⟩ := TrustedSetup.honest_of_bind hsetup
  refine ⟨⟨fun houtcome => ?_, fun h => inclusionProof_of_shown h.1 h.2⟩,
    fun h _ => inclusionProof_of_not_shown h, ?_, ?_, ?_⟩
  · obtain ⟨failure, hfailure, hkind⟩ := houtcome
    have hindex : ¬∃ i : Nat, user = .integer i ∧ i < entries.length := ?_
    · refine ⟨hindex, Option.eq_none_iff_forall_ne_some.mpr fun obstacle hobstacle => ?_⟩
      rw [inclusionProof_of_not_shown hindex hobstacle, Except.error.injEq] at hfailure
      rw [← hfailure] at hkind
      obtain hvalue | hdepth := Failure.kind_ofObstacle obstacle
      · exact absurd (hkind.symm.trans hvalue) (by simp)
      · exact absurd (hkind.symm.trans hdepth) (by simp)
    rintro ⟨i, rfl, hi⟩
    obtain ⟨name, hname⟩ := hnames _ (List.getElem_mem hi)
    have he : entries[i]? = some ⟨.text name, entries[i].balances⟩ := by
      rw [List.getElem?_eq_getElem hi, ← hname]
    rw [inclusionProof_ofNat he] at hfailure
    exact prove_kind_ne_outOfRange hE hhonest hschedule hfailure hkind
  · rintro i name balances rfl he
    rw [inclusionProof_ofNat he]
    exact prove_configuration_iff hE hhonest hschedule
  · rintro i name balances rfl he hwidth j
    rw [inclusionProof_ofNat he]
    exact prove_eq_selfCheck_iff hE hhonest hschedule hwidth
  · rintro i name balances rfl he hwidth hall
    simp only [inclusionProof_ofNat he, Poly.toPolynomial_sub_divByMonic, Poly.eval_toPolynomial]
    exact prove_of_not_differs hE hhonest hschedule hwidth hall

/-- Under the powers of a secret there is a snapshot of one user with a balance of five. -/
theorem exists_snapshot_of_one (schedule : Schedule) : ∃ (s : Snapshot) (k : Datum),
    TrustedSetup.bind (Parameters.generate .bn254Logarithms (Scalar.encode 3) 2) k (.integer 1)
        .null = .ok s.setup ∧
      s.columns = [.constant (Scalar.encode 97), .constant (Scalar.encode 5)] ∧
      s.schedule = schedule := by
  obtain ⟨setup, hbind, hdomain, hsetup⟩ := TrustedSetup.exists_bind_eq_ok .bn254Logarithms
    (Scalar.encode 3) (by decide : 1 ≤ Scalar.maxDomainExponent) le_rfl
    (by decide : ((2 ^ 1 : Nat) : Int) - 1 ≤ 2) .null
  have hsize : setup.domain.size = 2 := by rw [hdomain]; rfl
  have hfits : mismatch? [.constant (Scalar.encode 97), .constant (Scalar.encode 5)]
      [⟨.text "a", [5]⟩] setup = none := by
    refine mismatch?_eq_none hsetup rfl ?_ (by rw [hsize]; decide) (by decide)
    rw [hsize]
    decide
  exact ⟨⟨_, _, setup, schedule, hfits⟩, _, hbind, rfl, rfl⟩

/-- A column of a balance that is not the entry's, opened by a pool that finishes the last
column first. -/
theorem exists_inclusionProof_outcome : ∃ s : Snapshot,
    s.columns = [.constant (Scalar.encode 97), .constant (Scalar.encode 5)] ∧
      s.schedule = .pool [1, 0] ∧
      s.Outcome .bn254Logarithms (Scalar.encode 3) [⟨.text "a", [6]⟩] (.integer 0) := by
  obtain ⟨s, k, hbind, hcolumns, hschedule⟩ := exists_snapshot_of_one (.pool [1, 0])
  exact ⟨s, hcolumns, hschedule, inclusionProof_outcome PairingGroups.bn254Logarithms_lawful hbind
    (by simp [hschedule]) (by simp) _⟩

/-- An index of one digit more than a numeral may have is no index of an entry, and it is refused
for its length and not as out of range. -/
theorem exists_inclusionProof_tooManyDigits : ∃ (s : Snapshot) (k : Datum),
    TrustedSetup.bind (Parameters.generate .bn254Logarithms (Scalar.encode 3) 2) k (.integer 1)
        .null = .ok s.setup ∧
      s.inclusionProof .bn254Logarithms (.integer (Nat.pow 10 Text.maxDigits : Nat))
        [⟨.text "a", [5]⟩] = .error .numeralTooLong ∧
      Failure.numeralTooLong.kind ≠ .outOfRange := by
  obtain ⟨s, k, hbind, -, -⟩ := exists_snapshot_of_one .inTurn
  have hlong := Text.isTooLong_pow
  generalize Nat.pow 10 Text.maxDigits = n at hlong ⊢
  have hobstacle : (Datum.integer n).obstacle? = some .tooManyDigits := by
    rw [Datum.obstacle?_integer, hlong]
    rfl
  refine ⟨s, k, hbind, inclusionProof_of_not_shown ?_ hobstacle, by decide⟩
  rintro ⟨i, hi, hlt⟩
  -- the only index is zero, which is not too long
  obtain rfl : i = 0 := Nat.lt_one_iff.mp hlt
  rw [Datum.integer.inj hi, Text.isTooLong_natCast (Nat.pow_pos (by decide))] at hlong
  exact absurd hlong Bool.false_ne_true

end Snapshot

end LiabilityProof
