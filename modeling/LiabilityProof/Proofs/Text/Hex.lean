import LiabilityProof.Proofs.Text.BigEndian
import LiabilityProof.Proofs.Text.Decimal

/-!
# Hexadecimal texts are read back

A byte is written as two lower-case digits, and reading takes it from them again. So bytes are read
back from their text (`readHex_hexBytes`). The text of some bytes is also a numeral of base sixteen:
it is read as the number that the bytes write, most significant byte first
(`readInteger_ofBytes`).
-/

namespace LiabilityProof

namespace Text

/-! ### Digits -/

/-- The digits that are written: the ten of ASCII and the lower-case letters to `f`. -/
def IsLowerHex (c : Char) : Prop := ('0' ≤ c ∧ c ≤ '9') ∨ ('a' ≤ c ∧ c ≤ 'f')

instance (c : Char) : Decidable (IsLowerHex c) := inferInstanceAs (Decidable (_ ∨ _))

theorem isLowerHex_hexDigit {d : Nat} (hd : d < 16) : IsLowerHex (hexDigit d) := by
  interval_cases d <;> decide

theorem digitValue?_hexDigit {d : Nat} (hd : d < 16) : digitValue? 16 (hexDigit d) = some d := by
  interval_cases d <;> rfl

theorem IsLowerHex.toNat_bounds {c : Char} (h : IsLowerHex c) : 48 ≤ c.toNat ∧ c.toNat ≤ 102 := by
  have hle : ∀ {a b : Char}, a ≤ b → a.toNat ≤ b.toNat := fun h => h
  obtain ⟨hlow, hhigh⟩ | ⟨hlow, hhigh⟩ := h
  · exact ⟨hle hlow, (hle hhigh).trans (by decide)⟩
  · exact ⟨(by decide : 48 ≤ 'a'.toNat).trans (hle hlow), hle hhigh⟩

theorem IsLowerHex.isAsciiBlank {c : Char} (h : IsLowerHex c) : isAsciiBlank c = false := by
  have hbounds := h.toNat_bounds
  have hspace : c ≠ ' ' := by
    rintro rfl
    exact absurd hbounds (by decide)
  rw [Text.isAsciiBlank, decide_eq_false hspace, Bool.false_or, Bool.and_eq_false_iff]
  exact .inr (decide_eq_false (by omega))

theorem IsLowerHex.plain {c : Char} (h : IsLowerHex c) : plain c = c :=
  if_pos (h.toNat_bounds.2.trans_lt (by decide))

/-! ### Bytes -/

/-- The halves of bytes, the upper before the lower. -/
def nibbles (bytes : List UInt8) : List Nat :=
  bytes.flatMap fun b => [b.toNat / 16, b.toNat % 16]

theorem hexBytes_eq_map (bytes : List UInt8) : hexBytes bytes = (nibbles bytes).map hexDigit := by
  rw [nibbles, List.map_flatMap]
  rfl

theorem lt_of_mem_nibbles {bytes : List UInt8} {d : Nat} (h : d ∈ nibbles bytes) : d < 16 := by
  obtain ⟨b, -, hd⟩ := List.mem_flatMap.mp h
  have hb : b.toNat < 256 := b.toNat_lt
  obtain rfl | rfl : d = b.toNat / 16 ∨ d = b.toNat % 16 := by simpa using hd
  · omega
  · omega

theorem isLowerHex_of_mem_hexBytes {bytes : List UInt8} {c : Char} (h : c ∈ hexBytes bytes) :
    IsLowerHex c := by
  rw [hexBytes_eq_map] at h
  obtain ⟨d, hd, rfl⟩ := List.mem_map.mp h
  exact isLowerHex_hexDigit (lt_of_mem_nibbles hd)

theorem length_hexBytes (bytes : List UInt8) : (hexBytes bytes).length = 2 * bytes.length := by
  simp [hexBytes, List.length_flatMap, Nat.mul_comm]

theorem readPairs_hexBytes (position : Nat) (bytes : List UInt8) :
    readPairs position (hexBytes bytes) = .ok bytes := by
  induction bytes generalizing position with
  | nil => rfl
  | cons b bytes ih =>
    -- the position is only told in errors, so it is general in the induction
    have hb : b.toNat < 256 := b.toNat_lt
    have hhigh : b.toNat / 16 < 16 := by omega
    have hlow : b.toNat % 16 < 16 := by omega
    have hbyte : b.toNat / 16 * 16 + b.toNat % 16 = b.toNat := by omega
    have hcons : hexBytes (b :: bytes) =
        hexDigit (b.toNat / 16) :: hexDigit (b.toNat % 16) :: hexBytes bytes := rfl
    rw [hcons, readPairs, (isLowerHex_hexDigit hhigh).isAsciiBlank, if_neg Bool.false_ne_true]
    simp only [digitValue?_hexDigit hhigh, digitValue?_hexDigit hlow, ih, hbyte]
    rw [UInt8.ofNat_toNat]
    rfl

/-- Bytes are read back from their digits. -/
theorem readHex_hexBytes (bytes : List UInt8) : readHex (hexBytes bytes) = .ok bytes := by
  have hascii : (hexBytes bytes).findIdx? (fun c => decide (127 < c.toNat)) = none := by
    refine List.findIdx?_eq_none_iff.mpr fun c hc => decide_eq_false ?_
    have hle := (isLowerHex_of_mem_hexBytes hc).toNat_bounds.2
    omega
  rw [readHex, hascii]
  exact readPairs_hexBytes 0 bytes

/-! ### Numerals -/

/-- In base sixteen the halves of the bytes are the digits of the number that the bytes write. -/
theorem ofDigits_nibbles (bytes : List UInt8) :
    ofDigits 16 (nibbles bytes) = ofBigEndian bytes := by
  rw [ofDigits, nibbles, List.foldl_flatMap, ofBigEndian]
  refine congrArg (fun f => List.foldl f 0 bytes) (funext fun acc => funext fun b => ?_)
  change (acc * 16 + b.toNat / 16) * 16 + b.toNat % 16 = acc * 256 + b.toNat
  omega

theorem digitRun_hexBytes {bytes : List UInt8} (h : bytes ≠ []) :
    digitRun 16 (hexBytes bytes) = some (nibbles bytes) := by
  rw [hexBytes_eq_map]
  refine digitRun_of_forall₂ ?_ (List.forall₂_map_left_iff.mpr (List.forall₂_same.mpr fun d hd =>
    digitValue?_hexDigit (lt_of_mem_nibbles hd)))
  obtain ⟨b, bytes, rfl⟩ := List.exists_cons_of_ne_nil h
  exact List.cons_ne_nil _ _

theorem isRunChar_of_mem_hexBytes {bytes : List UInt8} {c : Char} (h : c ∈ hexBytes bytes) :
    isRunChar 16 c = true := by
  rw [hexBytes_eq_map] at h
  obtain ⟨d, hd, rfl⟩ := List.mem_map.mp h
  rw [isRunChar, digitValue?_hexDigit (lt_of_mem_nibbles hd), Option.isSome_some, Bool.or_true]

/-- No digit is an underscore, so nothing more is taken off behind the mark. -/
theorem dropHexMark_hexBytes (bytes : List UInt8) :
    dropHexMark ('0' :: 'x' :: hexBytes bytes) = hexBytes bytes := by
  rw [dropHexMark, if_pos (.inl rfl)]
  intro rest hrest
  have hmem : '_' ∈ hexBytes bytes := hrest ▸ List.mem_cons_self
  exact absurd (isLowerHex_of_mem_hexBytes hmem) (by decide)

/-- The text of bytes is read as the number that they write. -/
theorem readInteger_ofBytes {bytes : List UInt8} (h : bytes ≠ []) :
    readInteger 16 (ofBytes bytes) = .ok (ofBigEndian bytes) := by
  have hplain : (hexBytes bytes).map plain = hexBytes bytes :=
    (List.map_congr_left fun _ hc => (isLowerHex_of_mem_hexBytes hc).plain).trans (List.map_id _)
  have htext : splitSign (((ofBytes bytes).toList.map plain).dropWhile isAsciiBlank) =
      (false, '0' :: 'x' :: hexBytes bytes) := by
    rw [ofBytes, String.toList_ofList, List.map_cons, List.map_cons, hplain]
    rfl
  have htake : (hexBytes bytes).takeWhile (isRunChar 16) = hexBytes bytes :=
    List.takeWhile_eq_self_iff.mpr fun _ => isRunChar_of_mem_hexBytes
  have hdrop : (hexBytes bytes).dropWhile (isRunChar 16) = [] :=
    List.dropWhile_eq_nil_iff.mpr fun _ => isRunChar_of_mem_hexBytes
  rw [readInteger, htext]
  simp only [if_true, dropHexMark_hexBytes, htake, hdrop, digitRun_hexBytes h, List.all_nil]
  -- base sixteen has no bound on the number of digits
  rw [if_neg (fun h => absurd h.1 (by decide)), if_neg (by decide), ofDigits_nibbles,
    if_neg Bool.false_ne_true]

end Text

end LiabilityProof
