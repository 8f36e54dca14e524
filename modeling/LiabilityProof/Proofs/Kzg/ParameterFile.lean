import LiabilityProof.Kzg.ParameterFile
import LiabilityProof.Proofs.Wire.Parameters

/-!
# How loading parameters fails

Parameters are loaded from a file that anybody may have written. What is wrong with the file is to
be reported as a failure of configuration, but only some kinds of failure are: those of values, of
documents, of missing fields and of files (`TrustedSetup.IsReported`). A value that is no sequence
where one is read, a sequence that is too short, a table that is none, and a document of values
inside values to no end are handed on as they are (`TrustedSetup.IsHandedOn`).

None of the latter occurs with a document that is well shaped (`ParameterFile.WellShaped`).
-/

namespace LiabilityProof

namespace TrustedSetup

/-- The kinds of failure to load parameters that are reported as failures of configuration. -/
inductive IsReported : FailureKind → Prop where
  | value : IsReported .value
  | json : IsReported .json
  | encoding : IsReported .encoding
  | configuration : IsReported .configuration
  | missingField : IsReported .missingField
  | file (problem : FileProblem) : IsReported (.file problem)

/-- The kinds of failure to load parameters that are handed on as they are. -/
inductive IsHandedOn : FailureKind → Prop where
  | shape : IsHandedOn .shape
  | position : IsHandedOn .position
  | property : IsHandedOn .property
  | depth : IsHandedOn .depth

theorem IsReported.not_isHandedOn {kind : FailureKind} (h : IsReported kind) :
    ¬IsHandedOn kind := by
  rintro ⟨⟩ <;> cases h

end TrustedSetup

open TrustedSetup (IsReported IsHandedOn)

namespace ParameterFile

/-- The record of a document that is loaded: the first row of its type. -/
def Offers (document record : Datum) : Prop :=
  ∃ rows name, Document.rows recordType document = .ok rows ∧
    rows.find? (fun row => Document.hasType (.text recordType) row.2) = some (name, record)

/-- The first row that is found is the record that is offered. -/
theorem offers_of_search {document record : Datum} {records : List Datum}
    (h : Document.search recordType (.text recordType) document = .ok (record :: records)) :
    Offers document record := by
  obtain ⟨rows, hrows, hfound⟩ := bind_eq_ok_iff.mp h
  obtain ⟨row, _, hrow, -, hfilter⟩ := List.forall₂_cons_right_iff.mp (mapM_eq_ok_iff.mp hfound)
  obtain ⟨_, -, rfl⟩ := map_eq_ok_iff.mp hrow
  refine ⟨rows, row.1, hrows, ?_⟩
  -- the search filters the rows before it looks at their numbers
  rw [← List.head?_filter, hfilter]
  rfl

end ParameterFile

section Readers

variable {kinds : FailureKind → Prop} (hreported : ∀ kind, IsReported kind → kinds kind)

include hreported

/-! ### Readers of files -/

/-- A document that is nested too deeply is not reported as other faults of documents are. -/
theorem File.failsOnlyAs_readOrNull {file : File}
    (hdepth : file.readOrNull = .error .tooDeep → kinds .depth) :
    FailsOnlyAs kinds file.readOrNull := by
  have hbytes : ∀ content : ByteArray, ((bytes content).read = .error .tooDeep → kinds .depth) →
      FailsOnlyAs kinds (bytes content).read := by
    intro content hdepth
    rw [read] at hdepth ⊢
    split at hdepth
    next => exact .error (hreported _ .encoding)
    next text _ =>
      refine .mapError fun fault hfault => ?_
      rw [hfault] at hdepth
      cases fault with
      | malformed => exact hreported _ .json
      | tooManyDigits => exact hreported _ .value
      | tooDeep => exact hdepth rfl
  cases file with
  | document d => exact .ok d
  | bytes content =>
    rw [readOrNull] at hdepth ⊢
    by_cases hsize : content.size = 0
    · rw [if_pos hsize]
      exact .ok _
    · rw [if_neg hsize] at hdepth ⊢
      exact hbytes content hdepth

theorem Destination.failsOnlyAs_ofPath (known : String → Bool) (path : String) :
    FailsOnlyAs kinds (ofPath known path) := by
  have hfile : ∀ problem, kinds (.file problem) := fun problem => hreported _ (.file problem)
  unfold ofPath
  dsimp only
  split
  · exact .error (hreported _ .value)
  · split
    · exact .error (hfile _)
    · split
      · exact .error (hfile _)
      · exact .mapError fun problem _ => hfile problem

theorem Directory.failsOnlyAs_find (dir : Directory) (path : String) :
    FailsOnlyAs kinds (dir.find path) := by
  have hfile : ∀ problem, kinds (.file problem) := fun problem => hreported _ (.file problem)
  refine (Destination.failsOnlyAs_ofPath hreported _ path).bind fun destination _ => ?_
  cases destination with
  | directory => exact .error (hfile _)
  | file name slashed =>
    dsimp only
    cases dir.get? name with
    | none => exact .error (hfile _)
    | some file =>
      cases slashed with
      | true => exact .error (hfile _)
      | false => exact .ok _

namespace ParameterFile

theorem failsOnlyAs_ofDocument {path : String} {document : Datum}
    (hrows : FailsOnlyAs kinds (Document.rows recordType document))
    (hdata : ∀ record, Offers document record →
      FailsOnlyAs kinds (record.field "data" >>= Wire.parameters)) :
    FailsOnlyAs kinds (ofDocument path document) := by
  have hnumber : ∀ row : String × Datum,
      FailsOnlyAs kinds ((Document.rowNumber row.1).map fun _ => row.2) := fun row =>
    (FailsOnlyAs.mapError fun _ _ => (hreported _ .value : kinds .value)).map _
  have hsearch : FailsOnlyAs kinds
      (Document.search recordType (.text recordType) document) :=
    hrows.bind fun rows _ => .mapM fun row _ => hnumber row
  refine hsearch.bind fun records hrecords => ?_
  cases records with
  | nil => exact .error (hreported _ .value)
  | cons record records => exact hdata record (offers_of_search hrecords)

theorem failsOnlyAs_load {dir : Directory} {path : String}
    (hdepth : ∀ file, dir.find path = .ok file → file.readOrNull = .error .tooDeep → kinds .depth)
    (hdocument : ∀ file document, dir.find path = .ok file → file.readOrNull = .ok document →
      FailsOnlyAs kinds (ofDocument path document)) : FailsOnlyAs kinds (load dir path) := by
  refine (Directory.failsOnlyAs_find hreported dir path).bind fun file hfile => ?_
  exact (File.failsOnlyAs_readOrNull hreported (hdepth file hfile)).bind fun document hread =>
    hdocument file document hfile hread

end ParameterFile

end Readers

theorem Document.failsOnlyAs_rows (name : String) (document : Datum) :
    FailsOnlyAs (fun kind => kind = .shape ∨ kind = .property) (rows name document) := by
  unfold rows
  split
  · exact .ok []
  · split
    · exact .ok []
    · exact .ok _
    · exact .error (.inr rfl)
  · exact .error (.inl rfl)

theorem Directory.failsOnlyAs_pathOf (path : Datum) :
    FailsOnlyAs (fun kind => kind = .shape ∨ kind = .value ∨ kind = .file .badHandle)
      (pathOf path) := by
  unfold pathOf
  split
  · exact .ok _
  · split
    · split
      · exact .error (.inl rfl)
      · split
        · exact .error (.inr (.inl rfl))
        · exact .error (.inr (.inr rfl))
    · exact .error (.inl rfl)

/-! ### Documents that are well shaped -/

/-- The document has a table of parameters, or none, and the record that is offered has the shape
of parameters. -/
structure ParameterFile.WellShaped (document : Datum) : Prop where
  /-- The table is an object. -/
  rows : ∃ rows, Document.rows recordType document = .ok rows
  /-- The data of the record are parameters. -/
  data : ∀ record, Offers document record → ∀ d, record.field "data" = .ok d →
    Wire.ParametersShape d

theorem Document.exists_object_of_hasType {type record : Datum} (h : hasType type record = true) :
    ∃ fields, record = .object fields := by
  cases record with
  | object fields => exact ⟨fields, rfl⟩
  | null | bool | integer | double | text | array | scalar =>
    exact absurd h (by simp [hasType])

/-- The rows of a document that can be shown can be shown. -/
theorem Document.obstacle?_of_rows {name : String} {document : Datum} {rows : List (String × Datum)}
    (h : document.obstacle? = none) (hrows : Document.rows name document = .ok rows) :
    ∀ row ∈ rows, row.2.obstacle? = none := by
  unfold Document.rows at hrows
  split at hrows
  next =>
    obtain rfl := Except.ok.inj hrows
    exact List.forall_mem_nil _
  next tables =>
    split at hrows
    next =>
      obtain rfl := Except.ok.inj hrows
      exact List.forall_mem_nil _
    next table hlookup =>
      obtain rfl := Except.ok.inj hrows
      exact fun row => Datum.obstacle?_of_mem_fields (Datum.obstacle?_of_lookup h hlookup)
    next => cases hrows
  next => cases hrows

theorem ParameterFile.Offers.obstacle?_eq_none {document record : Datum}
    (h : Offers document record) (hdocument : document.obstacle? = none) :
    record.obstacle? = none := by
  obtain ⟨rows, name, hrows, hfind⟩ := h
  exact Document.obstacle?_of_rows hdocument hrows _ (List.mem_of_find?_eq_some hfind)

theorem ParameterFile.WellShaped.failsOnlyAs {document : Datum} (h : WellShaped document)
    (hshown : document.obstacle? = none) (path : String) :
    FailsOnlyAs IsReported (ofDocument path document) := by
  obtain ⟨⟨rows, hrows⟩, hdata⟩ := h
  refine failsOnlyAs_ofDocument (fun _ => id) (hrows ▸ .ok rows) fun record hoffers => ?_
  -- a record has a type, so it is an object, and its data can be missing only
  obtain ⟨fields, rfl⟩ : ∃ fields, record = .object fields := by
    obtain ⟨_, name, -, hfind⟩ := hoffers
    have htype := List.find?_some hfind
    exact Document.exists_object_of_hasType htype
  exact (Datum.failsOnlyAs_field_object .missingField "data" fields).bind fun d hd =>
    (hdata _ hoffers d hd).failsOnlyAs .missingField
      (Datum.obstacle?_of_field (hoffers.obstacle?_eq_none hshown) hd) .value

/-- The data of the record that a document offers, when they are parameters. -/
theorem ParameterFile.exists_data_of_ofDocument {path : String} {document : Datum}
    {p : Parameters} (h : ofDocument path document = .ok p) :
    ∃ record data, Offers document record ∧ record.field "data" = .ok data ∧
      data.field "max_degree" = .ok p.maxDegree := by
  obtain ⟨records, hrecords, hfirst⟩ := bind_eq_ok_iff.mp h
  cases records with
  | nil => exact absurd hfirst (by simp)
  | cons record records =>
    obtain ⟨data, hdata, hparameters⟩ := bind_eq_ok_iff.mp hfirst
    refine ⟨record, data, offers_of_search hrecords, hdata, ?_⟩
    simp only [Wire.parameters, bind_eq_ok_iff] at hparameters
    obtain ⟨_, -, _, -, _, -, _, -, _, -, _, -, degree, hdegree, hp⟩ := hparameters
    obtain rfl := Except.ok.inj hp
    exact hdegree

end LiabilityProof
