import LiabilityProof.Epoch.Round
import LiabilityProof.Proofs.Epoch.Snapshot
import LiabilityProof.Proofs.Json.Reader
import LiabilityProof.Proofs.Kzg.ParameterFile

/-!
# How loading a set-up fails

A set-up is loaded from the parameters in a file, and a round is made from columns, entries and the
set-up that is loaded. The failures are to be failures of configuration. The others, those that
stray (`TrustedSetup.Strays`), have four causes: reading fails in a way that is handed on, the
degree of the parameters is no number, it is a negative number of too many digits to be shown, or a
number of currencies below one is.

The first three do not occur with a file that is well shaped (`ParameterFile.Legible`), the fourth
only with numbers beyond all ledgers. Making a round from what was loaded adds no other failures
than those of showing the number of columns and the names of the entries.
-/

namespace LiabilityProof

open TrustedSetup (IsReported IsHandedOn)

namespace TrustedSetup

variable {dir : Directory} {path : Datum} {k : Nat} {n : Int} {failure : Failure}

/-- The parameters that a file writes. -/
def read (dir : Directory) (path : Datum) : Except Failure Parameters :=
  Directory.pathOf path >>= ParameterFile.load dir

theorem failsOnlyAs_read (dir : Directory) (path : Datum) :
    FailsOnlyAs (fun kind => IsReported kind ∨ IsHandedOn kind) (read dir path) := by
  have hpath : FailsOnlyAs (fun kind => IsReported kind ∨ IsHandedOn kind)
      (Directory.pathOf path) :=
    (Directory.failsOnlyAs_pathOf path).mono fun kind hkind => by
      obtain rfl | rfl | rfl := hkind
      · exact .inr .shape
      · exact .inl .value
      · exact .inl (.file _)
  refine hpath.bind fun name _ => ParameterFile.failsOnlyAs_load (fun _ => .inl)
    (fun _ _ _ => .inr .depth) fun _ document _ _ => ?_
  refine ParameterFile.failsOnlyAs_ofDocument (fun _ => .inl) ?_ fun record _ => ?_
  · refine (Document.failsOnlyAs_rows _ document).mono fun kind hkind => ?_
    obtain rfl | rfl := hkind
    · exact .inr .shape
    · exact .inr .property
  · have hdata : FailsOnlyAs (fun kind => IsReported kind ∨ IsHandedOn kind)
        (record.field "data") :=
      (record.failsOnlyAs_field "data").mono fun kind hkind => by
        obtain rfl | rfl := hkind
        · exact .inr .shape
        · exact .inl .missingField
    exact hdata.bind fun d _ => Wire.failsOnlyAs_parameters_of_kinds (.inl .value)
      (.inl .missingField) (.inr .shape) (.inr .position) (.inr .depth) d

/-- The failures to load a set-up that are not failures of configuration, by their causes. -/
inductive Strays (dir : Directory) (path : Datum) (n : Int) : Failure → Prop where
  /-- The file is not read, for a reason that is handed on. -/
  | reading {failure : Failure} (hread : read dir path = .error failure)
    (hkind : IsHandedOn failure.kind) : Strays dir path n failure
  /-- The degree of the parameters is compared with the number of rows, and is no number. -/
  | degree {p : Parameters} (hread : read dir path = .ok p) (hn : 1 ≤ n)
    (hdegree : p.maxDegree.compareInteger? 0 = none) : Strays dir path n .wrongShape
  /-- The degree of the parameters is too small, and too long to be shown. -/
  | capacity {p : Parameters} {m : Int} (hread : read dir path = .ok p) (hn : 1 ≤ n)
    (hdegree : p.maxDegree = .integer m) (hm : m < 0) (hlong : Text.isTooLong m = true) :
    Strays dir path n .numeralTooLong
  /-- The number of currencies is too small, and too long to be shown. -/
  | currencies {p : Parameters} (hread : read dir path = .ok p) (hn : n < 1)
    (hlong : Text.isTooLong n = true) : Strays dir path n .numeralTooLong

theorem loadFailure_of_isReported (h : IsReported failure.kind) :
    loadFailure path failure = .unreadableParameters path failure := by
  rw [loadFailure]
  generalize failure.kind = kind at h
  cases h <;> rfl

theorem loadFailure_of_isHandedOn (h : IsHandedOn failure.kind) :
    loadFailure path failure = failure := by
  rw [loadFailure]
  generalize failure.kind = kind at h
  cases h <;> rfl

theorem IsHandedOn.ne_configuration {kind : FailureKind} (h : IsHandedOn kind) :
    kind ≠ .configuration := by
  cases h <;> simp

theorem domainExponent_le (h : domainExponent path = .ok k) : k ≤ Scalar.maxDomainExponent := by
  unfold domainExponent at h
  dsimp only at h
  split at h
  · exact absurd h (by simp)
  · split at h
    · exact absurd h (by simp)
    · split at h
      · exact absurd h (by simp)
      · split at h
        · exact absurd h (by simp)
        next hle =>
          rw [← Except.ok.inj h]
          exact not_lt.mp hle

variable {p : Parameters}

theorem bind_of_compareInteger?_eq_none (hk : k ≤ Scalar.maxDomainExponent) (hn : 1 ≤ n)
    (hdegree : p.maxDegree.compareInteger? 0 = none) (path : Datum) :
    bind p (.integer k) (.integer n) path = .error .wrongShape := by
  rw [bind, columnsFor_of_le hn, Domain.ofDatum_natCast hk]
  dsimp only [Bind.bind, Except.bind]
  rw [Datum.compareInteger?_eq_none_iff.mp hdegree]

theorem bind_of_isTooLong (hk : k ≤ Scalar.maxDomainExponent) (hn : 1 ≤ n) {m : Int}
    (hdegree : p.maxDegree = .integer m) (hm : m < 0) (hlong : Text.isTooLong m = true)
    (path : Datum) : bind p (.integer k) (.integer n) path = .error .numeralTooLong := by
  have hsize : m < ((⟨k, Scalar.twoPowerRoot k⟩ : Domain).size : Int) - 1 := by
    have hpos : 0 < (⟨k, Scalar.twoPowerRoot k⟩ : Domain).size := Nat.two_pow_pos k
    omega
  have hshort : (Datum.integer m).compareInteger? ((⟨k, Scalar.twoPowerRoot k⟩ : Domain).size - 1) =
      some (some .lt) := congrArg (some ∘ some) (compare_lt_iff_lt.mpr hsize)
  have hshowing : (Datum.integer m).ifNegative = [.integer m] := by
    obtain ⟨m, rfl⟩ := Int.eq_negSucc_of_lt_zero hm
    rfl
  rw [bind, columnsFor_of_le hn, Domain.ofDatum_natCast hk]
  dsimp only [Bind.bind, Except.bind]
  rw [hdegree, hshort]
  dsimp only
  rw [hshowing, Failure.showing_integer, if_pos hlong]

/-- Binding parameters to enough currencies fails as a failure of configuration, unless their
degree is no number or cannot be shown. -/
theorem kind_of_bind (hk : k ≤ Scalar.maxDomainExponent) (hn : 1 ≤ n)
    (h : bind p (.integer k) (.integer n) path = .error failure) :
    failure.kind = .configuration ∨
      failure = .wrongShape ∧ p.maxDegree.compareInteger? 0 = none ∨
      failure = .numeralTooLong ∧
        ∃ m : Int, p.maxDegree = .integer m ∧ m < 0 ∧ Text.isTooLong m = true := by
  rw [bind, columnsFor_of_le hn, Domain.ofDatum_natCast hk] at h
  dsimp only [Bind.bind, Except.bind] at h
  -- the degree is looked at before the powers for the verifier are counted
  split at h
  next hnone =>
    exact .inr (.inl ⟨(Except.error.inj h).symm, Datum.compareInteger?_eq_none_iff.mp hnone⟩)
  next =>
    obtain rfl := Except.error.inj h
    obtain hraised | ⟨d, hd, obstacle, hobstacle, hraised⟩ :=
      Failure.showing_cases p.maxDegree.ifNegative
        (.parametersTooShort p.maxDegree (Domain.mk k (Scalar.twoPowerRoot k)).size)
    · exact .inl (by rw [hraised]; rfl)
    · obtain ⟨rfl, m, hdegree, hm⟩ := Datum.mem_ifNegative_iff.mp hd
      rw [hdegree, Datum.obstacle?_integer] at hobstacle
      obtain ⟨hlong, hobstacle⟩ := Option.ite_none_right_eq_some.mp hobstacle
      rw [hraised, ← Option.some.inj hobstacle]
      exact .inr (.inr ⟨rfl, m, hdegree, hm, hlong⟩)
  next =>
    split at h
    next => exact .inl (Except.error.inj h ▸ rfl)
    next => exact absurd h (by simp [pure, Except.pure])

theorem bind_of_lt (hn : n < 1) (k path : Datum) :
    bind p k (.integer n) path = .error (if Text.isTooLong n then .numeralTooLong
      else .tooFewCurrencies (.integer n)) := by
  rw [bind, columnsFor_of_lt hn]
  rfl

theorem ofFile_of_read_error (hk : domainExponent path = .ok k)
    (hread : read dir path = .error failure) (currencies : Datum) :
    ofFile dir path currencies = .error (loadFailure path failure) := by
  rw [ofFile, hk]
  change (read dir path).mapError (loadFailure path) >>= _ = _
  rw [hread]
  rfl

theorem ofFile_of_read_ok (hk : domainExponent path = .ok k) (hread : read dir path = .ok p)
    (currencies : Datum) : ofFile dir path currencies = bind p (.integer k) currencies path := by
  rw [ofFile, hk]
  change (read dir path).mapError (loadFailure path) >>= _ = _
  rw [hread]
  rfl

/-- A failure is one of configuration, or one of those that stray. -/
theorem strays_of_ofFile (hk : domainExponent path = .ok k)
    (h : ofFile dir path (.integer n) = .error failure) (hkind : failure.kind ≠ .configuration) :
    Strays dir path n failure := by
  cases hread : read dir path with
  | error cause =>
    rw [ofFile_of_read_error hk hread, Except.error.injEq] at h
    -- what is reported is a failure of configuration, so the cause was handed on
    obtain hcause | hcause := failsOnlyAs_read dir path cause hread
    · rw [loadFailure_of_isReported hcause] at h
      exact absurd (h ▸ rfl) hkind
    · rw [loadFailure_of_isHandedOn hcause] at h
      exact .reading (h ▸ hread) (h ▸ hcause)
  | ok p =>
    rw [ofFile_of_read_ok hk hread] at h
    rcases lt_or_ge n 1 with hn | hn
    · rw [bind_of_lt hn, Except.error.injEq] at h
      split at h
      next hlong =>
        obtain rfl := h
        exact .currencies hread hn hlong
      next => exact absurd (h ▸ rfl) hkind
    · obtain hconfiguration | ⟨rfl, hdegree⟩ | ⟨rfl, m, hdegree, hm, hlong⟩ :=
        kind_of_bind (domainExponent_le hk) hn h
      · exact absurd hconfiguration hkind
      · exact .degree hread hn hdegree
      · exact .capacity hread hn hdegree hm hlong

theorem columns_of_ofFile {setup : TrustedSetup} (hk : domainExponent path = .ok k)
    (h : ofFile dir path (.integer n) = .ok setup) :
    1 ≤ n ∧ setup.columns = .integer (n + 1) := by
  cases hread : read dir path with
  | error cause =>
    rw [ofFile_of_read_error hk hread] at h
    exact absurd h (by simp)
  | ok p =>
    rw [ofFile_of_read_ok hk hread] at h
    have hcolumns := columnsFor_of_bind h
    rcases lt_or_ge n 1 with hn | hn
    · rw [columnsFor_of_lt hn] at hcolumns
      exact absurd hcolumns (by simp)
    · rw [columnsFor_of_le hn] at hcolumns
      exact ⟨hn, (Except.ok.inj hcolumns).symm⟩

theorem Strays.ofFile_eq_error (h : Strays dir path n failure)
    (hk : domainExponent path = .ok k) :
    ofFile dir path (.integer n) = .error failure ∧ failure.kind ≠ .configuration := by
  cases h with
  | reading hread hkind =>
    rw [ofFile_of_read_error hk hread, loadFailure_of_isHandedOn hkind]
    exact ⟨rfl, hkind.ne_configuration⟩
  | degree hread hn hdegree =>
    rw [ofFile_of_read_ok hk hread]
    exact ⟨bind_of_compareInteger?_eq_none (domainExponent_le hk) hn hdegree path, by decide⟩
  | capacity hread hn hdegree hm hlong =>
    rw [ofFile_of_read_ok hk hread]
    exact ⟨bind_of_isTooLong (domainExponent_le hk) hn hdegree hm hlong path, by decide⟩
  | currencies hread hn hlong =>
    rw [ofFile_of_read_ok hk hread, bind_of_lt hn, if_pos hlong]
    exact ⟨rfl, by decide⟩

end TrustedSetup

/-! ### Files that are well shaped -/

/-- The file of the name, if there is one, holds a document that is well shaped, or none. -/
structure ParameterFile.Legible (dir : Directory) (name : String) : Prop where
  /-- The nesting of the document is within reach. -/
  nesting : ∀ file, dir.find name = .ok file → file.readOrNull ≠ .error .tooDeep
  /-- The document is well shaped. -/
  document : ∀ file document, dir.find name = .ok file → file.readOrNull = .ok document →
    WellShaped document
  /-- A document that is not read from bytes could have been written. -/
  written : ∀ document, dir.find name = .ok (.document document) → document.obstacle? = none

namespace ParameterFile.Legible

variable {dir : Directory} {name : String} {n : Int} {failure : Failure}

/-- What is read from bytes can be shown, as well as what could have been written. -/
theorem obstacle?_eq_none (h : Legible dir name) {file : File} {document : Datum}
    (hfile : dir.find name = .ok file) (hdocument : file.readOrNull = .ok document) :
    document.obstacle? = none := by
  cases file with
  | document d => exact Except.ok.inj hdocument ▸ h.written d hfile
  | bytes content =>
    rw [File.readOrNull] at hdocument
    split at hdocument
    next => exact Except.ok.inj hdocument ▸ rfl
    next =>
      rw [File.read] at hdocument
      split at hdocument
      next => cases hdocument
      next => exact Json.obstacle?_of_read (mapError_eq_ok_iff.mp hdocument)

theorem failsOnlyAs_load (h : Legible dir name) : FailsOnlyAs IsReported (load dir name) :=
  ParameterFile.failsOnlyAs_load (fun _ => id)
    (fun file hfile hdeep => absurd hdeep (h.nesting file hfile))
    fun file document hfile hdocument =>
      (h.document file document hfile hdocument).failsOnlyAs (h.obstacle?_eq_none hfile hdocument)
        name

theorem maxDegree_of_load (h : Legible dir name) {p : Parameters} (hload : load dir name = .ok p) :
    p.maxDegree.compareInteger? 0 ≠ none ∧ p.maxDegree.obstacle? = none := by
  obtain ⟨file, hfile, hload⟩ := bind_eq_ok_iff.mp hload
  obtain ⟨document, hdocument, hload⟩ := bind_eq_ok_iff.mp hload
  obtain ⟨record, data, hoffers, hdata, hdegree⟩ := exists_data_of_ofDocument hload
  refine ⟨((h.document file document hfile hdocument).data record hoffers data hdata).maxDegree _
    hdegree, ?_⟩
  have hrecord := hoffers.obstacle?_eq_none (h.obstacle?_eq_none hfile hdocument)
  exact Datum.obstacle?_of_field (Datum.obstacle?_of_field hrecord hdata) hdegree

/-- Nothing strays with a file that is well shaped. -/
theorem not_strays (h : Legible dir name) (hn : 1 ≤ n ∨ Text.isTooLong n = false) :
    ¬TrustedSetup.Strays dir (.text name) n failure := by
  -- one case for each cause
  rintro (⟨hread, hkind⟩ | ⟨hread, -, hdegree⟩ | ⟨hread, -, hdegree, -, hlong⟩ | ⟨-, hsmall, hlong⟩)
  · exact (h.failsOnlyAs_load failure hread).not_isHandedOn hkind
  · exact (h.maxDegree_of_load hread).1 hdegree
  · have hshown := (h.maxDegree_of_load hread).2
    rw [hdegree, Datum.obstacle?_integer, if_pos hlong] at hshown
    exact absurd hshown (by simp)
  · obtain hle | hshort := hn
    · exact absurd hsmall (not_lt.mpr hle)
    · exact absurd hlong (by rw [hshort]; exact Bool.false_ne_true)

end ParameterFile.Legible

/-! ### Rounds -/

theorem obstacle?_integer_eq_some_iff {n : Int} {obstacle : Datum.Obstacle} :
    (Datum.integer n).obstacle? = some obstacle ↔
      Text.isTooLong n = true ∧ Failure.ofObstacle obstacle = .numeralTooLong := by
  rw [Datum.obstacle?_integer, Option.ite_none_right_eq_some]
  refine and_congr_right fun _ => ?_
  cases obstacle <;> simp [Failure.ofObstacle]

/-- A round of columns and entries that do not fit the set-up fails as a failure of configuration,
or for a number of columns or the name of an entry that cannot be shown. -/
theorem Round.kind_of_ofFile {signer : Signer} {columns : List Poly} {entries : List Entry}
    {dir : Directory} {path : Datum} {currencies : Option Datum} {timestamp : Datum}
    {schedule : Schedule} {k : Nat} {n : Int} {failure : Failure}
    (hk : domainExponent path = .ok k)
    (hn : currencies.getD (inferCurrencies columns entries) = .integer n)
    (h : ofFile signer columns entries dir path currencies timestamp schedule = .error failure) :
    failure.kind = .configuration ∨ TrustedSetup.Strays dir path n failure ∨
      failure = .numeralTooLong ∧ Text.isTooLong (n + 1) = true ∨
      ∃ e ∈ entries, ∃ obstacle, e.username.obstacle? = some obstacle ∧
        failure = .ofObstacle obstacle := by
  rw [ofFile, hn] at h
  obtain hsetup | ⟨setup, hsetup, h⟩ := bind_eq_error_iff.mp h
  · by_cases hkind : failure.kind = .configuration
    · exact .inl hkind
    · exact .inr (.inl (TrustedSetup.strays_of_ofFile hk hsetup hkind))
  · -- the set-up was loaded, so what fails is the fit of columns and entries
    obtain ⟨hpos, hcolumns⟩ := TrustedSetup.columns_of_ofFile hk hsetup
    obtain hmake | ⟨snapshot, -, h⟩ := bind_eq_error_iff.mp h
    · obtain hkind | ⟨d, hd, obstacle, hobstacle, rfl⟩ :=
        Snapshot.kind_of_mismatch? (Snapshot.mismatch?_of_make_eq_error hmake)
      · exact .inl hkind
      · obtain rfl | rfl | ⟨e, he, rfl⟩ := hd
        · rw [hcolumns] at hobstacle
          obtain ⟨hlong, hraised⟩ := obstacle?_integer_eq_some_iff.mp hobstacle
          exact .inr (.inr (.inl ⟨hraised, hlong⟩))
        · have hcurrencies : setup.currencies = .integer n := by
            rw [TrustedSetup.currencies, hcolumns]
            change Datum.integer (n + 1 + -1) = _
            congr 1
            omega
          rw [hcurrencies] at hobstacle
          obtain ⟨hlong, hraised⟩ := obstacle?_integer_eq_some_iff.mp hobstacle
          exact .inr (.inr (.inl ⟨hraised, Text.isTooLong_add_one (by omega) hlong⟩))
        · exact .inr (.inr (.inr ⟨e, he, obstacle, hobstacle, rfl⟩))
    · exact absurd h (by simp [pure, Except.pure])

/-! ### Set-ups and rounds from files -/

namespace TrustedSetup

/-- Whatever the content of the file is, loading a set-up fails as a failure of configuration or
strays, and it strays for no other causes than those listed. It does not with a file that is absent,
that is no document or whose document is well shaped. A round from the file fails likewise, unless
the number of its columns or the name of an entry cannot be shown. -/
theorem failure_of_ofFile {dir : Directory} {path : Datum} {k : Nat} {n : Int}
    (hk : domainExponent path = .ok k) :
    (∀ failure, ofFile dir path (.integer n) = .error failure ∧ failure.kind ≠ .configuration ↔
        Strays dir path n failure) ∧
      (∀ name, path = .text name → ParameterFile.Legible dir name →
        1 ≤ n ∨ Text.isTooLong n = false → ∀ failure, ¬Strays dir path n failure) ∧
      ∀ signer columns entries currencies timestamp schedule failure,
        Option.getD currencies (Round.inferCurrencies columns entries) = .integer n →
        Round.ofFile signer columns entries dir path currencies timestamp schedule =
          .error failure →
        failure.kind = .configuration ∨ Strays dir path n failure ∨
          failure = .numeralTooLong ∧ Text.isTooLong (n + 1) = true ∨
          ∃ e ∈ entries, ∃ obstacle, e.username.obstacle? = some obstacle ∧
            failure = .ofObstacle obstacle := by
  refine ⟨fun failure => ⟨fun h => strays_of_ofFile hk h.1 h.2, fun h => h.ofFile_eq_error hk⟩,
    ?_, ?_⟩
  · rintro name rfl hlegible hn failure
    exact hlegible.not_strays hn
  · intro signer columns entries currencies timestamp schedule failure hn h
    exact Round.kind_of_ofFile hk hn h

end TrustedSetup

/-- A document with one record. -/
def Datum.documentOf (data : Datum) : Datum :=
  .object [(ParameterFile.recordType, .object
    [("1", .object [("type", .text ParameterFile.recordType), ("data", data)])])]

/-- A directory of one file. -/
def Directory.holding (name : String) (data : Datum) : Directory :=
  ⟨[(name, .document data.documentOf)]⟩

theorem ParameterFile.WellShaped.documentOf {data : Datum} (h : Wire.ParametersShape data) :
    WellShaped data.documentOf where
  rows := ⟨_, rfl⟩
  data := by
    rintro record ⟨rows, name, hrows, hfind⟩ d hd
    obtain rfl := Except.ok.inj hrows
    obtain rfl := (Prod.mk.inj (Option.some.inj hfind)).2
    obtain rfl := Except.ok.inj hd
    exact h

theorem ParameterFile.Legible.of_find {dir : Directory} {name : String} {document : Datum}
    (hfind : dir.find name = .ok (.document document)) (h : WellShaped document)
    (hshown : document.obstacle? = none) : Legible dir name where
  nesting := by
    intro file hfile
    obtain rfl := Except.ok.inj (hfind.symm.trans hfile)
    simp [File.readOrNull]
  document := by
    intro file document' hfile hread
    obtain rfl := Except.ok.inj (hfind.symm.trans hfile)
    exact Except.ok.inj hread ▸ h
  written := by
    intro document' hfile
    obtain rfl := File.document.inj (Except.ok.inj (hfind.symm.trans hfile))
    exact hshown

/-- The point at infinity, and one pair of pairs. -/
def Datum.onePair : Datum :=
  .object
    [("g1_powers", .array [.null]),
     ("g2_powers", .array [.array [.array [.text "1", .text "2"], .array [.text "3", .text "4"]]]),
     ("max_degree", .integer 0)]

theorem Datum.obstacle?_documentOf_onePair : onePair.documentOf.obstacle? = none := by
  have hzero : Text.isTooLong 0 = false := Text.isTooLong_natCast (Nat.pow_pos (by decide))
  simp [obstacle?, maxDepth, documentOf, onePair, obstacleWithin, obstacleInFields, obstacleAmong,
    hzero]

theorem Wire.ParametersShape.onePair : ParametersShape .onePair where
  object := ⟨_, rfl⟩
  powers1 := by
    intro row hrow
    obtain rfl := Except.ok.inj hrow
    exact ⟨_, .array _, by simp⟩
  powers2 := by
    intro row hrow
    obtain rfl := Except.ok.inj hrow
    refine ⟨_, .array _, fun m hm _ => ?_⟩
    obtain rfl := List.mem_singleton.mp hm
    exact .array (.array trivial trivial) (.array trivial trivial)
  maxDegree := by
    intro degree hdegree
    obtain rfl := Except.ok.inj hdegree
    simp [Datum.compareInteger?, Datum.asInteger?]

namespace TrustedSetup

/-- Parameters with one pair are one power short, and neither a set-up nor a round is made of
them. -/
theorem failure_of_ofFile_onePair :
    domainExponent (.text "dev-0") = .ok 0 ∧
      ParameterFile.Legible (.holding "dev-0" .onePair) "dev-0" ∧
      (∀ failure, ofFile (.holding "dev-0" .onePair) (.text "dev-0") (.integer 1) =
        .error failure → failure.kind = .configuration) ∧
      ∀ signer timestamp schedule failure,
        Round.ofFile signer [0, 0] [] (.holding "dev-0" .onePair) (.text "dev-0") none timestamp
          schedule = .error failure → failure.kind = .configuration := by
  have hlegible : ParameterFile.Legible (.holding "dev-0" .onePair) "dev-0" :=
    .of_find rfl (.documentOf .onePair) Datum.obstacle?_documentOf_onePair
  obtain ⟨hstrays, hnone, hround⟩ :=
    @failure_of_ofFile (.holding "dev-0" .onePair) (.text "dev-0") 0 1 rfl
  have hshort : Text.isTooLong 2 = false :=
    Text.isTooLong_eq_false_iff.mpr
      ((by decide : 2 < 10 ^ 1).trans_le (Nat.pow_le_pow_right (by decide) (by decide)))
  refine ⟨rfl, hlegible, fun failure h => ?_, fun signer timestamp schedule failure h => ?_⟩
  · by_contra hkind
    exact hnone _ rfl hlegible (.inl le_rfl) failure ((hstrays failure).mp ⟨h, hkind⟩)
  · obtain hkind | hstray | ⟨-, hlong⟩ | ⟨e, he, -⟩ :=
      hround signer [0, 0] [] none timestamp schedule failure rfl h
    · exact hkind
    · exact absurd hstray (hnone _ rfl hlegible (.inl le_rfl) failure)
    · exact absurd hlong (by rw [show (1 : Int) + 1 = 2 from rfl, hshort]; exact Bool.false_ne_true)
    · exact absurd he List.not_mem_nil

/-- A file of parameters that says nothing of their degree. -/
def withoutDegree : String :=
  "\x7b\"srs\": \x7b\"1\": \x7b\"type\": \"srs\", \"data\": " ++
    "\x7b\"g1_powers\": [], \"g2_powers\": [], \"max_degree\": null\x7d\x7d\x7d\x7d"

/-- Whether a computation fails in some kind. -/
def failsAs {α : Type} (kind : FailureKind) : Except Failure α → Bool
  | .ok _ => false
  | .error failure => failure.kind == kind

theorem exists_of_failsAs {α : Type} {kind : FailureKind} {x : Except Failure α}
    (h : failsAs kind x = true) : ∃ failure, x = .error failure ∧ failure.kind = kind := by
  cases x with
  | ok a => exact absurd h Bool.false_ne_true
  | error failure => exact ⟨failure, rfl, eq_of_beq h⟩

/-- Parameters without a degree are read. What stands in its place is compared with the number of
rows, and this is not reported as a failure of configuration. -/
theorem exists_ofFile_withoutDegree :
    domainExponent (.text "dev-1") = .ok 1 ∧
      ∃ failure, ofFile ⟨[("dev-1", .bytes withoutDegree.toUTF8)]⟩ (.text "dev-1") (.integer 1) =
        .error failure ∧ failure.kind ≠ .configuration := by
  have hfails : failsAs .shape
      (ofFile ⟨[("dev-1", .bytes withoutDegree.toUTF8)]⟩ (.text "dev-1") (.integer 1)) = true := by
    decide +kernel
  obtain ⟨failure, hfailure, hkind⟩ := exists_of_failsAs hfails
  exact ⟨rfl, failure, hfailure, by rw [hkind]; decide⟩

end TrustedSetup

end LiabilityProof
