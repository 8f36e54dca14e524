import LiabilityProof.Kzg.Setup
import LiabilityProof.Proofs.Wire.Integer

/-!
# The exponent in a name

The name of a parameter file ends in the exponent of its domain: the part behind the last hyphen,
which is the whole name where there is no hyphen (`IsLastPart`), is a run of ASCII digits
(`Text.IsNumeral`), leading zeros included. A name that ends in anything else, or in an exponent above
`28`, is refused as a failure of configuration.

Runs of more than `4300` digits are not looked into. They are refused whatever their value is, and
not as a failure of configuration (`domainExponent_outcome`).
-/

namespace LiabilityProof

variable {cs part : List Char} {k : Nat}

/-! ### The last part of a name -/

/-- The part behind the last hyphen, or all characters where there is none. -/
def IsLastPart (cs part : List Char) : Prop :=
  '-' ∉ part ∧ (cs = part ∨ ∃ front, cs = front ++ '-' :: part)

theorem isLastPart_afterLastHyphen (cs : List Char) : IsLastPart cs (afterLastHyphen cs) := by
  have hsplit : cs = (cs.reverse.dropWhile (· ≠ '-')).reverse ++ afterLastHyphen cs := by
    rw [afterLastHyphen, ← List.reverse_append, List.takeWhile_append_dropWhile,
      List.reverse_reverse]
  refine ⟨fun h => ?_, ?_⟩
  · have hne := List.mem_takeWhile_imp (List.mem_reverse.mp h)
    exact absurd rfl (of_decide_eq_true hne)
  · cases hrest : cs.reverse.dropWhile (· ≠ '-') with
    | nil =>
      rw [hrest] at hsplit
      exact .inl hsplit
    | cons c rest =>
      -- what stops the search from the end is a hyphen
      have hstop := List.head?_dropWhile_not (· ≠ '-') cs.reverse
      rw [hrest, List.head?_cons] at hstop
      obtain rfl : c = '-' := by simpa using hstop
      rw [hrest, List.reverse_cons, List.append_assoc] at hsplit
      exact .inr ⟨rest.reverse, hsplit⟩

/-- There is one last part. -/
theorem isLastPart_iff : IsLastPart cs part ↔ part = afterLastHyphen cs := by
  refine ⟨?_, fun h => h ▸ isLastPart_afterLastHyphen cs⟩
  rintro ⟨hpart, hcs⟩
  have hnone : ∀ c ∈ part.reverse, decide (c ≠ '-') = true := fun c hc =>
    decide_eq_true fun h => hpart (h ▸ List.mem_reverse.mp hc)
  obtain rfl | ⟨front, rfl⟩ := hcs
  · rw [afterLastHyphen, List.takeWhile_eq_self_iff.mpr hnone, List.reverse_reverse]
  · rw [afterLastHyphen, List.reverse_append, List.reverse_cons, List.append_assoc,
      List.singleton_append, List.takeWhile_append_of_pos hnone,
      List.takeWhile_cons_of_neg (by decide), List.append_nil, List.reverse_reverse]

/-! ### Numerals -/

namespace Text

/-- A run of ASCII digits, the most significant first, and its value. -/
structure IsNumeral (cs : List Char) (n : Nat) : Prop where
  /-- There is a digit. -/
  nonempty : cs ≠ []
  /-- There are only digits. -/
  digits : ∀ c ∈ cs, '0' ≤ c ∧ c ≤ '9'
  /-- The value of the digits. -/
  value : Nat.ofDigits 10 (cs.reverse.map fun c => c.toNat - 48) = n

theorem IsNumeral.isAsciiDigit {n : Nat} (h : IsNumeral cs n) :
    ∀ c ∈ cs, isAsciiDigit c = true := by
  intro c hc
  simpa [Text.isAsciiDigit] using h.digits c hc

theorem isDigits_eq_true_iff : isDigits cs = true ↔ ∃ n, IsNumeral cs n := by
  rw [Datum.isDigits_iff]
  constructor
  · rintro ⟨hne, hdigits⟩
    refine ⟨_, hne, fun c hc => ?_, rfl⟩
    simpa [Text.isAsciiDigit] using hdigits c hc
  · rintro ⟨n, hn⟩
    exact ⟨hn.nonempty, hn.isAsciiDigit⟩

/-- The value of a run of digits is read off them. -/
theorem IsNumeral.ofDigits_eq {n : Nat} (h : IsNumeral cs n) :
    ofDigits 10 (cs.filterMap (digitValue? 10)) = n := by
  rw [Datum.filterMap_digitValue? h.isAsciiDigit, Datum.ofDigits_eq_ofDigits_reverse,
    ← List.map_reverse, h.value]

end Text

/-! ### Exponents -/

section

variable {name : String} (hpart : IsLastPart name.toList part)
include hpart

theorem domainExponent_of_not_isNumeral (h : ¬∃ k, Text.IsNumeral part k) :
    domainExponent (.text name) = .error (.noDomainExponent (.text name)) := by
  have hlast : afterLastHyphen (Datum.text name).display.toList = part :=
    (isLastPart_iff.mp hpart).symm
  have hdigits : Text.isDigits part = false :=
    eq_false_of_ne_true fun hdigits => h (Text.isDigits_eq_true_iff.mp hdigits)
  rw [domainExponent, hlast]
  exact if_pos hdigits

/-- The digits are counted before their value is looked at. -/
theorem domainExponent_of_isNumeral (h : Text.IsNumeral part k) :
    domainExponent (.text name) =
      if Text.maxDigits < part.length then .error (.numeral (.tooManyDigits part.length))
      else if 28 < k then .error (.domainExponentTooLarge k) else .ok k := by
  have hlast : afterLastHyphen (Datum.text name).display.toList = part :=
    (isLastPart_iff.mp hpart).symm
  have hdigits : Text.isDigits part = true := Text.isDigits_eq_true_iff.mpr ⟨k, h⟩
  rw [domainExponent, hlast]
  dsimp only
  rw [if_neg (by rw [hdigits]; decide), h.ofDigits_eq]
  rfl

end

/-- The exponent is read off the last part of a name. A part that is no numeral, and a numeral above
`28`, are failures of configuration. A numeral of more than `4300` digits is not read, whatever its
value is, and the failure is of another kind. -/
theorem domainExponent_outcome (name : String) :
    ∃ part, (∀ cs, IsLastPart name.toList cs ↔ cs = part) ∧
      ((¬∃ k, Text.IsNumeral part k) →
        domainExponent (.text name) = .error (.noDomainExponent (.text name)) ∧
          (Failure.noDomainExponent (.text name)).kind = .configuration) ∧
      ∀ k, Text.IsNumeral part k →
        (part.length ≤ Text.maxDigits → k ≤ 28 → domainExponent (.text name) = .ok k) ∧
        (part.length ≤ Text.maxDigits → 28 < k →
          domainExponent (.text name) = .error (.domainExponentTooLarge k) ∧
            (Failure.domainExponentTooLarge k).kind = .configuration) ∧
        (Text.maxDigits < part.length →
          domainExponent (.text name) = .error (.numeral (.tooManyDigits part.length)) ∧
            (Failure.numeral (.tooManyDigits part.length)).kind = .value) := by
  have hpart := isLastPart_afterLastHyphen name.toList
  refine ⟨_, fun cs => isLastPart_iff, fun h => ⟨domainExponent_of_not_isNumeral hpart h, rfl⟩,
    fun k hk => ?_⟩
  rw [domainExponent_of_isNumeral hpart hk]
  refine ⟨fun hlength hle => ?_, fun hlength hlt => ⟨?_, rfl⟩, fun hlength => ⟨?_, rfl⟩⟩
  · rw [if_neg (not_lt.mpr hlength), if_neg (not_lt.mpr hle)]
  · rw [if_neg (not_lt.mpr hlength), if_pos hlt]
  · rw [if_pos hlength]

/-! ### Long runs of digits -/

/-- The digit two behind zeros. -/
def zeroPadded (zeros : Nat) : List Char := List.replicate zeros '0' ++ ['2']

/-- A name that ends in the exponent two, behind zeros. -/
def paddedName (zeros : Nat) : String := String.ofList ("dev".toList ++ '-' :: zeroPadded zeros)

theorem toList_paddedName (zeros : Nat) :
    (paddedName zeros).toList = "dev".toList ++ '-' :: zeroPadded zeros :=
  String.toList_ofList

theorem length_zeroPadded (zeros : Nat) : (zeroPadded zeros).length = zeros + 1 := by
  rw [zeroPadded, List.length_append, List.length_replicate, List.length_singleton]

theorem mem_zeroPadded {zeros : Nat} {c : Char} (h : c ∈ zeroPadded zeros) : c = '0' ∨ c = '2' := by
  rw [zeroPadded, List.mem_append, List.mem_singleton] at h
  exact h.imp_left List.eq_of_mem_replicate

theorem isNumeral_zeroPadded (zeros : Nat) : Text.IsNumeral (zeroPadded zeros) 2 where
  nonempty := by simp [zeroPadded]
  digits := by
    intro c hc
    obtain rfl | rfl := mem_zeroPadded hc <;> decide
  value := by
    rw [zeroPadded, List.reverse_append, List.reverse_replicate, List.map_append,
      List.map_replicate]
    exact Nat.ofDigits_append_replicate_zero [2]

theorem isLastPart_paddedName (zeros : Nat) :
    IsLastPart (paddedName zeros).toList (zeroPadded zeros) := by
  refine ⟨fun h => ?_, .inr ⟨"dev".toList, toList_paddedName zeros⟩⟩
  obtain h | h := mem_zeroPadded h <;> exact absurd h (by decide)

/-- Zeros in front of the exponent do no harm as long as there are not too many. -/
theorem domainExponent_outcome_padded : domainExponent (.text (paddedName 4299)) = .ok 2 := by
  obtain ⟨part, hpart, -, hread⟩ := domainExponent_outcome (paddedName 4299)
  obtain rfl := (hpart _).mp (isLastPart_paddedName 4299)
  exact (hread 2 (isNumeral_zeroPadded 4299)).1 (length_zeroPadded 4299).le (by decide)

/-- One zero more, and the exponent two is not read. What is reported is no failure of
configuration. -/
theorem exists_domainExponent_unread :
    IsLastPart (paddedName 4300).toList (zeroPadded 4300) ∧ Text.IsNumeral (zeroPadded 4300) 2 ∧
      ∃ failure, domainExponent (.text (paddedName 4300)) = .error failure ∧
        failure.kind ≠ .configuration := by
  have hlength : Text.maxDigits < (zeroPadded 4300).length := (length_zeroPadded 4300).ge
  have hread := (domainExponent_of_isNumeral (isLastPart_paddedName 4300)
    (isNumeral_zeroPadded 4300)).trans (if_pos hlength)
  exact ⟨isLastPart_paddedName 4300, isNumeral_zeroPadded 4300, _, hread, by decide⟩

end LiabilityProof
