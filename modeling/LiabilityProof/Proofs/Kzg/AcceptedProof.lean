import LiabilityProof.Proofs.Kzg.InclusionProof
import LiabilityProof.Proofs.Text.HexNumeral
import LiabilityProof.Proofs.Wire.Integer

/-!
# Which documents are read as inclusion proofs

A document is read as an inclusion proof if it holds the texts of one (`Wire.HoldsTexts`): one of
pairs of digits for the calldata, and a row of numerals of base sixteen for the public inputs. Those
may have a sign and any number of digits, so more is read than is ever written.

What was read can be written again exactly if every one of the numerals is an unsigned number of
256 bits, and then the same proof is read from what is written. Otherwise the proof holds an input
that is no such number, and cannot be written (`inclusionProof_writtenAgain`).
-/

namespace LiabilityProof

namespace Wire

/-! ### Texts of bytes and of numbers -/

theorem bytes_eq_ok_iff {d : Datum} {b : List UInt8} :
    bytes d = .ok b ↔ ∃ s, d = .text s ∧ Text.IsHexPairs (Text.dropMark s.toList) b := by
  cases d with
  | text s => simp [bytes, mapError_eq_ok_iff, Text.readHex_eq_ok_iff]
  | null | bool | integer | double | array | object | scalar => simp [bytes]

theorem word_eq_ok_iff {d : Datum} {n : Int} :
    word d = .ok n ↔ ∃ s, d = .text s ∧ Text.IsHexInteger s n := by
  cases d with
  | text s => simp [word, mapError_eq_ok_iff, Text.readInteger_sixteen_eq_ok_iff]
  | null | bool | integer | double | array | object | scalar => simp [word]

/-- A row is read as numbers if it is one of numerals. -/
theorem mapM_word_eq_ok_iff {members : List Datum} {ns : List Int} :
    members.mapM word = .ok ns ↔
      ∃ texts, members = texts.map .text ∧ List.Forall₂ Text.IsHexInteger texts ns := by
  rw [mapM_eq_ok_iff]
  constructor
  · intro h
    induction h with
    | nil => exact ⟨[], rfl, .nil⟩
    | cons hn _ ih =>
      obtain ⟨s, rfl, hs⟩ := word_eq_ok_iff.mp hn
      obtain ⟨texts, rfl, htexts⟩ := ih
      exact ⟨s :: texts, rfl, .cons hs htexts⟩
  · rintro ⟨texts, rfl, h⟩
    rw [List.forall₂_map_left_iff]
    exact h.imp fun s n hs => word_eq_ok_iff.mpr ⟨s, rfl, hs⟩

/-! ### Documents -/

/-- The document holds a text as the calldata, and a row of texts as the public inputs. -/
structure HoldsTexts (d : Datum) (calldata : String) (inputs : List String) : Prop where
  /-- The text of the calldata. -/
  calldata : d.field "proof_calldata" = .ok (.text calldata)
  /-- The texts of the public inputs, in their order. -/
  inputs : ∃ row, d.field "public_inputs" = .ok row ∧ row.Lists (inputs.map .text)

/-- The documents that are read as inclusion proofs. -/
theorem inclusionProof_eq_ok_iff_holdsTexts {d : Datum} {p : InclusionProof} :
    inclusionProof d = .ok p ↔ ∃ calldata inputs, HoldsTexts d calldata inputs ∧
      Text.IsHexPairs (Text.dropMark calldata.toList) p.calldata ∧
      List.Forall₂ Text.IsHexInteger inputs p.publicInputs := by
  simp only [inclusionProof, bind_eq_ok_iff, bytes_eq_ok_iff, Datum.elements_eq_ok_iff,
    mapM_word_eq_ok_iff]
  constructor
  · rintro ⟨_, hcalldata, calldata, ⟨s, rfl, hpairs⟩, row, hrow, _, hlists, inputs,
      ⟨texts, rfl, htexts⟩, hp⟩
    obtain rfl := Except.ok.inj hp
    exact ⟨s, texts, ⟨hcalldata, row, hrow, hlists⟩, hpairs, htexts⟩
  · rintro ⟨s, texts, ⟨hcalldata, row, hrow, hlists⟩, hpairs, htexts⟩
    exact ⟨_, hcalldata, _, ⟨s, rfl, hpairs⟩, row, hrow, _, hlists, _, ⟨texts, rfl, htexts⟩, rfl⟩

/-- A document holds one row of texts. -/
theorem HoldsTexts.inputs_unique {d : Datum} {calldata calldata' : String}
    {inputs inputs' : List String} (h : HoldsTexts d calldata inputs)
    (h' : HoldsTexts d calldata' inputs') : inputs = inputs' := by
  obtain ⟨row, hrow, hlists⟩ := h.inputs
  obtain ⟨row', hrow', hlists'⟩ := h'.inputs
  obtain rfl := Except.ok.inj (hrow.symm.trans hrow')
  have hmap : inputs.map Datum.text = inputs'.map Datum.text :=
    Except.ok.inj ((Datum.elements_eq_ok_iff.mpr hlists).symm.trans
      (Datum.elements_eq_ok_iff.mpr hlists'))
  exact List.map_injective_iff.mpr (fun _ _ => Datum.text.inj) hmap

/-- Numerals that are read tell whether their integers are numbers of 256 bits. -/
theorem forall_isWord_iff {texts : List String} {ns : List Int}
    (h : List.Forall₂ Text.IsHexInteger texts ns) :
    (∀ n ∈ ns, IsWord n) ↔ ∀ s ∈ texts, Text.IsWordNumeral s := by
  induction h with
  | nil => simp
  | cons hn _ ih => rw [List.forall_mem_cons, List.forall_mem_cons, ih, ← hn.bounds_iff, IsWord]

/-! ### Writing again what was read -/

/-- A document is read as an inclusion proof if it holds pairs of digits and a row of numerals. If
all numerals are unsigned numbers of 256 bits, then so are the public inputs, the proof can be
written, and it is read again from what is written. If one of them is not, then a public input is
no such number, and the proof is too wide to be written. -/
theorem inclusionProof_writtenAgain (d : Datum) (p : InclusionProof) :
    (inclusionProof d = .ok p ↔ ∃ calldata inputs, HoldsTexts d calldata inputs ∧
        Text.IsHexPairs (Text.dropMark calldata.toList) p.calldata ∧
        List.Forall₂ Text.IsHexInteger inputs p.publicInputs) ∧
      ∀ calldata inputs, HoldsTexts d calldata inputs → inclusionProof d = .ok p →
        ((∀ s ∈ inputs, Text.IsWordNumeral s) →
          (∀ n ∈ p.publicInputs, IsWord n) ∧
            ∃ d', ofInclusionProof p = .ok d' ∧ inclusionProof d' = .ok p) ∧
        ((∃ s ∈ inputs, ¬Text.IsWordNumeral s) →
          (∃ n ∈ p.publicInputs, ¬IsWord n) ∧ ofInclusionProof p = .error .tooWide) := by
  refine ⟨inclusionProof_eq_ok_iff_holdsTexts, fun calldata inputs htexts h => ?_⟩
  obtain ⟨_, inputs', htexts', -, hnumerals⟩ := inclusionProof_eq_ok_iff_holdsTexts.mp h
  obtain rfl := htexts.inputs_unique htexts'
  have hiff := forall_isWord_iff hnumerals
  constructor
  · intro hwords
    have hp := hiff.mpr hwords
    exact ⟨hp, _, ofInclusionProof_eq_ok hp, inclusionProof_inclusionDocument hp⟩
  · rintro ⟨s, hs, hword⟩
    have hp : ¬∀ n ∈ p.publicInputs, IsWord n := fun hp => hword (hiff.mp hp s hs)
    refine ⟨?_, ofInclusionProof_eq_error hp⟩
    push Not at hp
    exact hp

/-- A document of texts. -/
def documentOfTexts (calldata : String) (inputs : List String) : Datum :=
  .object [("proof_calldata", .text calldata), ("public_inputs", .array (inputs.map .text))]

theorem holdsTexts_documentOfTexts (calldata : String) (inputs : List String) :
    HoldsTexts (documentOfTexts calldata inputs) calldata inputs :=
  ⟨rfl, _, rfl, .array _⟩

/-- Two bytes, and numerals of zero and of `255`, none of them as it would be written. -/
theorem inclusionProof_writtenAgain_unusual :
    let d := documentOfTexts "0x0A 0b" ["-0", " 0X_f_F"]
    let p : InclusionProof := ⟨[10, 11], [0, 255]⟩
    inclusionProof d = .ok p ∧ ∃ d', ofInclusionProof p = .ok d' ∧ inclusionProof d' = .ok p := by
  intro d p
  have hzero : Text.IsHexInteger "-0" 0 := Text.readInteger_sixteen_eq_ok_iff.mp (by cbv)
  have hwide : Text.IsHexInteger " 0X_f_F" 255 := Text.readInteger_sixteen_eq_ok_iff.mp (by cbv)
  have hcalldata : Text.IsHexPairs (Text.dropMark "0x0A 0b".toList) [10, 11] :=
    Text.readHex_eq_ok_iff.mp (by cbv)
  have htexts : HoldsTexts d "0x0A 0b" ["-0", " 0X_f_F"] := holdsTexts_documentOfTexts _ _
  obtain ⟨hiff, hagain⟩ := inclusionProof_writtenAgain d p
  have hread : inclusionProof d = .ok p :=
    hiff.mpr ⟨_, _, htexts, hcalldata, .cons hzero (.cons hwide .nil)⟩
  have hwords : ∀ s ∈ ["-0", " 0X_f_F"], Text.IsWordNumeral s :=
    List.forall_mem_cons.mpr ⟨hzero.bounds_iff.mp (by decide),
      List.forall_mem_singleton.mpr (hwide.bounds_iff.mp (by decide))⟩
  exact ⟨hread, ((hagain _ _ htexts hread).1 hwords).2⟩

/-- The numeral of a negative number is read, and cannot be written. -/
theorem exists_inclusionProof_unwritable :
    inclusionProof (documentOfTexts "0x" ["-1"]) = .ok ⟨[], [-1]⟩ ∧ ¬IsWord (-1) ∧
      ofInclusionProof ⟨[], [-1]⟩ = .error .tooWide :=
  ⟨rfl, by decide, ofInclusionProof_eq_error (by decide)⟩

end Wire

end LiabilityProof
