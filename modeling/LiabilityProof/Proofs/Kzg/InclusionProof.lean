import LiabilityProof.Kzg.InclusionProof
import LiabilityProof.Proofs.Outcome
import LiabilityProof.Proofs.Text.Hex

/-!
# Inclusion proofs are read back

The calldata of an inclusion proof may be any bytes, and their text is always read as these bytes.
A public input has a written form exactly if it is a number of 256 bits: the mark `0x` and 64
lower-case digits (`Wire.WritesWord`), and this form is read as the number. So an inclusion proof
can be written exactly if its public inputs are such numbers, and it is read back from what is
written.
-/

namespace LiabilityProof

namespace Wire

/-! ### Numbers of 256 bits -/

/-- Whether an integer is an unsigned number of 256 bits. -/
def IsWord (n : Int) : Prop := 0 ≤ n ∧ n < 2 ^ 256

instance (n : Int) : Decidable (IsWord n) := inferInstanceAs (Decidable (_ ∧ _))

/-- The text is the mark `0x` with 64 lower-case digits behind it. -/
def IsWordText (s : String) : Prop :=
  ∃ digits, s.toList = '0' :: 'x' :: digits ∧ digits.length = 64 ∧ ∀ c ∈ digits, Text.IsLowerHex c

/-- The text of a number of 256 bits. -/
def wordText (n : Int) : String := Text.ofBytes (Text.bigEndian 32 n.toNat)

variable {n : Int}

theorem isWordText_wordText (n : Int) : IsWordText (wordText n) := by
  refine ⟨Text.hexBytes (Text.bigEndian 32 n.toNat), String.toList_ofList, ?_,
    fun c => Text.isLowerHex_of_mem_hexBytes⟩
  rw [Text.length_hexBytes, Text.length_bigEndian]

theorem IsWord.toNat_lt (h : IsWord n) : n.toNat < 256 ^ 32 :=
  (Int.toNat_lt h.1).mpr h.2

theorem ofWord_of_isWord (h : IsWord n) : ofWord n = .ok (.text (wordText n)) :=
  if_pos ⟨h.1, h.toNat_lt⟩

theorem ofWord_of_not_isWord (h : ¬IsWord n) : ofWord n = .error .tooWide :=
  if_neg fun hn => h ⟨hn.1, (Int.toNat_lt hn.1).mp hn.2⟩

theorem word_wordText (h : IsWord n) : word (.text (wordText n)) = .ok n := by
  have hne : Text.bigEndian 32 n.toNat ≠ [] := by
    rw [← List.length_pos_iff, Text.length_bigEndian]
    decide
  rw [word, wordText, Text.readInteger_ofBytes hne, Text.ofBigEndian_bigEndian,
    Nat.mod_eq_of_lt h.toNat_lt, Int.toNat_of_nonneg h.1]
  rfl

/-! ### Bytes -/

theorem bytes_ofBytes (b : List UInt8) : bytes (ofBytes b) = .ok b := by
  have hmark : Text.dropMark (Text.ofBytes b).toList = Text.hexBytes b := by
    rw [Text.ofBytes, String.toList_ofList]
    rfl
  rw [ofBytes, bytes, hmark, Text.readHex_hexBytes]
  rfl

/-! ### Inclusion proofs -/

variable {p : InclusionProof}

/-- The document of an inclusion proof. -/
def inclusionDocument (p : InclusionProof) : Datum :=
  .object
    [("public_inputs", .array (p.publicInputs.map fun n => .text (wordText n))),
     ("proof_calldata", ofBytes p.calldata)]

theorem ofInclusionProof_eq_ok (h : ∀ n ∈ p.publicInputs, IsWord n) :
    ofInclusionProof p = .ok (inclusionDocument p) := by
  rw [ofInclusionProof, mapM_eq_ok_map fun n hn => ofWord_of_isWord (h n hn)]
  rfl

/-- A public input of another size cannot be written, wherever it stands. -/
theorem ofInclusionProof_eq_error (h : ¬∀ n ∈ p.publicInputs, IsWord n) :
    ofInclusionProof p = .error .tooWide := by
  have hinputs : p.publicInputs.mapM ofWord = .error .tooWide := by
    refine mapM_eq_error (fun n _ => ?_) ?_
    · by_cases hn : IsWord n
      · exact .inl ⟨_, ofWord_of_isWord hn⟩
      · exact .inr (ofWord_of_not_isWord hn)
    · push Not at h
      obtain ⟨n, hn, hword⟩ := h
      exact ⟨n, hn, ofWord_of_not_isWord hword⟩
  rw [ofInclusionProof, hinputs]
  rfl

theorem inclusionProof_inclusionDocument (h : ∀ n ∈ p.publicInputs, IsWord n) :
    inclusionProof (inclusionDocument p) = .ok p := by
  have hinputs : (p.publicInputs.map fun n => Datum.text (wordText n)).mapM word =
      .ok p.publicInputs := mapM_map_eq_ok fun n hn => word_wordText (h n hn)
  change (bytes (ofBytes p.calldata) >>= fun calldata =>
    (p.publicInputs.map fun n => Datum.text (wordText n)).mapM word >>= fun inputs =>
      pure (InclusionProof.mk calldata inputs)) = _
  rw [bytes_ofBytes, hinputs]
  rfl

/-- An inclusion proof can be written exactly if its public inputs are numbers of 256 bits, and
otherwise one of them is too wide. Each input is written as the mark `0x` and 64 lower-case digits,
and what is written is read back. -/
theorem inclusionProof_readBack (p : InclusionProof) :
    ((∃ d, ofInclusionProof p = .ok d) ↔ ∀ n ∈ p.publicInputs, IsWord n) ∧
      ((¬∀ n ∈ p.publicInputs, IsWord n) →
        ofInclusionProof p = .error .tooWide ∧ Failure.tooWide.kind = .width) ∧
      ∀ d, ofInclusionProof p = .ok d →
        (∃ texts : List String, d.field "public_inputs" = .ok (.array (texts.map .text)) ∧
          List.Forall₂ (fun n s => IsWordText s ∧ word (.text s) = .ok n) p.publicInputs texts) ∧
        inclusionProof d = .ok p := by
  have hiff : (∃ d, ofInclusionProof p = .ok d) ↔ ∀ n ∈ p.publicInputs, IsWord n := by
    refine ⟨fun ⟨d, hd⟩ => by_contra fun h => ?_, fun h => ⟨_, ofInclusionProof_eq_ok h⟩⟩
    rw [ofInclusionProof_eq_error h] at hd
    exact absurd hd (by simp)
  refine ⟨hiff, fun h => ⟨ofInclusionProof_eq_error h, rfl⟩, fun d hd => ?_⟩
  have hwords := hiff.mp ⟨d, hd⟩
  obtain rfl : inclusionDocument p = d :=
    Except.ok.inj ((ofInclusionProof_eq_ok hwords).symm.trans hd)
  refine ⟨⟨p.publicInputs.map wordText, ?_, ?_⟩, inclusionProof_inclusionDocument hwords⟩
  · rw [List.map_map]
    rfl
  · exact List.forall₂_map_right_iff.mpr <| List.forall₂_same.mpr fun n hn =>
      ⟨isWordText_wordText n, word_wordText (hwords n hn)⟩

/-- The widest number is read back, and the next one is too wide. -/
theorem inclusionProof_readBack_widest :
    (∃ d, ofInclusionProof ⟨[255, 0, 16], [0, 2 ^ 256 - 1]⟩ = .ok d ∧
        inclusionProof d = .ok ⟨[255, 0, 16], [0, 2 ^ 256 - 1]⟩) ∧
      ofInclusionProof ⟨[255, 0, 16], [0, 2 ^ 256]⟩ = .error .tooWide := by
  constructor
  · obtain ⟨hiff, -, hread⟩ := inclusionProof_readBack ⟨[255, 0, 16], [0, 2 ^ 256 - 1]⟩
    obtain ⟨d, hd⟩ := hiff.mpr (by decide)
    exact ⟨d, hd, (hread d hd).2⟩
  · exact ((inclusionProof_readBack ⟨[255, 0, 16], [0, 2 ^ 256]⟩).2.1 (by decide)).1

end Wire

end LiabilityProof
