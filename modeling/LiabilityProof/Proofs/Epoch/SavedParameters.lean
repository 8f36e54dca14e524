import LiabilityProof.Proofs.Epoch.Loading
import LiabilityProof.Proofs.Storage.Upsert
import LiabilityProof.Proofs.Wire.Written

/-!
# Saved parameters come back

Saving parameters under a name reads and writes no other file, and what it writes offers these
parameters, whatever was in the file before: they are the data of the first record that is found
there. So after any number of saves a file holds what was saved in it last, and the set-up that is
made of the file is the one that these parameters are bound to (`ParameterFile.load_saveAll`).
-/

namespace LiabilityProof

/-! ### Files under plain names -/

namespace Directory

variable {dir : Directory} {name : String}

theorem place_of_isPlain (h : Destination.isPlain name = true) : dir.place name = .ok name := by
  rw [place, follow, Destination.ofPath_of_isPlain _ h]
  rfl

theorem find_of_isPlain (h : Destination.isPlain name = true) {file : File}
    (hfile : dir.get? name = some file) : dir.find name = .ok file := by
  rw [find, follow, Destination.ofPath_of_isPlain _ h]
  simp only [bind, Except.bind, hfile]
  rfl

end Directory

namespace ParameterFile

variable {dir : Directory} {name : String} {p : Parameters}

/-! ### One save -/

/-- The document that parameters were saved in offers them. -/
theorem ofDocument_of_saveInto {document document' : Datum}
    (h : saveInto p document = .ok document') (path : String) :
    ofDocument path document' = .ok p := by
  obtain ⟨rows, hrows, fields, rest, rfl, hdata⟩ := Document.exists_search_of_upsert h
  rw [ofDocument, hrows]
  change ((Datum.object fields).field "data" >>= Wire.parameters) = .ok p
  rw [Datum.field_object_eq_ok_iff.mpr hdata]
  exact Wire.parameters_ofParameters p

theorem eq_of_writable {document document' : Datum} (h : writable document = .ok document') :
    document = document' := by
  rw [writable] at h
  split at h
  next => exact absurd h (by simp)
  next => exact Except.ok.inj h

/-- A file that parameters were saved in holds a document that offers them. -/
theorem exists_get?_of_save (hplain : Destination.isPlain name = true)
    (h : (save dir name p).2 = .ok ()) :
    ∃ document, (save dir name p).1.get? name = some (.document document) ∧
      ofDocument name document = .ok p := by
  rw [save, Directory.place_of_isPlain hplain] at h ⊢
  dsimp only at h ⊢
  split at h
  next document hsaved =>
    obtain ⟨after, hafter, hwritten⟩ := bind_eq_ok_iff.mp hsaved
    obtain ⟨before, -, hafter⟩ := bind_eq_ok_iff.mp hafter
    obtain rfl := eq_of_writable hwritten
    exact ⟨after, by rw [Directory.get?_put, if_pos rfl], ofDocument_of_saveInto hafter name⟩
  next => exact absurd h (by simp)

/-- A save leaves the files of other names as they are. -/
theorem get?_save_of_ne {other : String} (hplain : Destination.isPlain other = true)
    (hne : other ≠ name) (p : Parameters) : (save dir other p).1.get? name = dir.get? name := by
  rw [save, Directory.place_of_isPlain hplain]
  dsimp only
  split
  · rw [Directory.get?_put, if_neg hne]
  · rw [Directory.get?_put, if_neg hne]

theorem load_of_get? (hplain : Destination.isPlain name = true) {document : Datum}
    (hfile : dir.get? name = some (.document document)) :
    load dir name = ofDocument name document := by
  rw [load, Directory.find_of_isPlain hplain hfile]
  rfl

/-! ### Saves one after the other -/

/-- The directory after saves under some names. -/
def saveAll (dir : Directory) (saves : List (String × Parameters)) : Directory :=
  saves.foldl (fun dir s => (save dir s.1 s.2).1) dir

theorem get?_saveAll_of_ne {saves : List (String × Parameters)}
    (hplain : ∀ s ∈ saves, Destination.isPlain s.1 = true) (hne : ∀ s ∈ saves, s.1 ≠ name) :
    (saveAll dir saves).get? name = dir.get? name := by
  induction saves generalizing dir with
  | nil => rfl
  | cons s saves ih =>
    obtain ⟨hs, hplain⟩ := List.forall_mem_cons.mp hplain
    obtain ⟨hsne, hne⟩ := List.forall_mem_cons.mp hne
    exact (ih hplain hne).trans (get?_save_of_ne hs hsne s.2)

/-- If the last save under a name succeeded, its parameters are loaded from there, and the set-up of
the file is that of these parameters, whatever the files held and however many saves there were. -/
theorem load_saveAll {before after : List (String × Parameters)}
    (hplain : ∀ s ∈ before ++ (name, p) :: after, Destination.isPlain s.1 = true)
    (hlast : ∀ s ∈ after, s.1 ≠ name) (hsaved : (save (saveAll dir before) name p).2 = .ok ()) :
    load (saveAll dir (before ++ (name, p) :: after)) name = .ok p ∧
      ∀ k currencies, domainExponent (.text name) = .ok k →
        TrustedSetup.ofFile (saveAll dir (before ++ (name, p) :: after)) (.text name) currencies =
          TrustedSetup.bind p (.integer k) currencies (.text name) := by
  obtain ⟨hname, hafter⟩ := List.forall_mem_cons.mp (List.forall_mem_append.mp hplain).2
  obtain ⟨document, hfile, hdocument⟩ := exists_get?_of_save hname hsaved
  have hrun : saveAll dir (before ++ (name, p) :: after) =
      saveAll (save (saveAll dir before) name p).1 after := by
    rw [saveAll, List.foldl_append]
    rfl
  have hload : load (saveAll dir (before ++ (name, p) :: after)) name = .ok p := by
    rw [hrun, load_of_get? hname ((get?_saveAll_of_ne hafter hlast).trans hfile), hdocument]
  exact ⟨hload, fun k currencies hk => TrustedSetup.ofFile_of_read_ok hk hload currencies⟩

/-- A file of two tables, with two records of parameters among others: one has a field more, and
the other has no data. -/
def crowded : String :=
  "\x7b\"_default\": \x7b\"1\": \x7b\"type\": \"srs\"\x7d\x7d, \"srs\": " ++
    "\x7b\"04\": \x7b\"type\": \"srs\", \"data\": null, \"note\": 1\x7d, " ++
    "\"7\": \x7b\"type\": \"key\"\x7d, \"9\": \x7b\"type\": \"srs\"\x7d\x7d\x7d"

/-- Parameters with points at infinity, saved over such a file between saves under another name. -/
theorem load_saveAll_crowded :
    let dir : Directory := ⟨[("dev-1", .bytes crowded.toUTF8)]⟩
    let p : Parameters :=
      ⟨[.infinity, .affine 1 (.ofNat 2)], [.affine ⟨1, 0⟩ ⟨0, -1⟩, .infinity], .integer 1⟩
    let q : Parameters := ⟨[], [], .integer 0⟩
    let dir' := saveAll dir ([("dev-0", q)] ++ ("dev-1", p) :: [("dev-0", p)])
    (save (saveAll dir [("dev-0", q)]) "dev-1" p).2 = .ok () ∧ load dir' "dev-1" = .ok p ∧
      domainExponent (.text "dev-1") = .ok 1 ∧
      TrustedSetup.ofFile dir' (.text "dev-1") (.integer 1) =
        TrustedSetup.bind p (.integer 1) (.integer 1) (.text "dev-1") := by
  intro dir p q dir'
  have hsaves : (save (saveAll dir [("dev-0", q)]) "dev-1" p).2.isOk = true := by decide +kernel
  have hsaved : (save (saveAll dir [("dev-0", q)]) "dev-1" p).2 = .ok () := by
    cases hsave : (save (saveAll dir [("dev-0", q)]) "dev-1" p).2 with
    | ok => rfl
    | error failure =>
      rw [hsave] at hsaves
      exact absurd hsaves Bool.false_ne_true
  have hplain : ∀ s ∈ [("dev-0", q)] ++ ("dev-1", p) :: [("dev-0", p)],
      Destination.isPlain s.1 = true := by decide
  obtain ⟨hload, hbind⟩ := load_saveAll hplain (by decide) hsaved
  exact ⟨hsaved, hload, rfl, hbind 1 (.integer 1) rfl⟩

end ParameterFile

end LiabilityProof
