import Mathlib.Algebra.Order.Monoid.Unbundled.Pow
import Mathlib.Data.List.Forall2
import Mathlib.Data.List.TakeWhile
import Mathlib.Data.Nat.Basic
import Mathlib.Tactic.IntervalCases
import LiabilityProof.Text.Numeral

/-!
# Decimal numerals are read back

The decimal text of a number is a run of digits whose value is the number, most significant digit
first. So different integers have different texts (`integer_injective`), and a text of an integer
that is not too long is read as this integer (`readInteger_ofInt`). Conversely no integer that is
read is too long, with whatever digits and blanks it was written (`isTooLong_of_readInteger`).
-/

namespace LiabilityProof

namespace Text

/-! ### Digits -/

theorem toNat_digitChar {d : Nat} (hd : d < 10) : (digitChar d).toNat = 48 + d := by
  interval_cases d <;> rfl

theorem isAsciiDigit_iff {c : Char} : isAsciiDigit c = true ↔ 48 ≤ c.toNat ∧ c.toNat ≤ 57 := by
  rw [isAsciiDigit, Bool.and_eq_true, decide_eq_true_iff, decide_eq_true_iff]
  exact Iff.rfl

theorem isAsciiDigit_digitChar {d : Nat} (hd : d < 10) : isAsciiDigit (digitChar d) = true := by
  rw [isAsciiDigit_iff, toNat_digitChar hd]
  omega

/-! ### The digits of a number -/

theorem decimalOnto_of_lt {n : Nat} (h : n < 10) (tail : List Char) :
    decimalOnto n tail = digitChar n :: tail := by
  rw [decimalOnto, if_pos h]

theorem decimalOnto_of_le {n : Nat} (h : 10 ≤ n) (tail : List Char) :
    decimalOnto n tail = decimalOnto (n / 10) (digitChar (n % 10) :: tail) := by
  rw [decimalOnto, if_neg (by omega)]

theorem decimalOnto_eq (n : Nat) (tail : List Char) : decimalOnto n tail = decimal n ++ tail := by
  induction n using Nat.strong_induction_on generalizing tail with
  | h n ih =>
    rcases lt_or_ge n 10 with h | h
    · rw [decimal, decimalOnto_of_lt h, decimalOnto_of_lt h]
      rfl
    · have hlt : n / 10 < n := by omega
      rw [decimal, decimalOnto_of_le h, decimalOnto_of_le h [], ih _ hlt, ih _ hlt [_],
        List.append_assoc]
      rfl

theorem decimal_of_lt {n : Nat} (h : n < 10) : decimal n = [digitChar n] := decimalOnto_of_lt h []

theorem decimal_of_le {n : Nat} (h : 10 ≤ n) :
    decimal n = decimal (n / 10) ++ [digitChar (n % 10)] := by
  rw [decimal, decimalOnto_of_le h, decimalOnto_eq]

theorem decimal_ne_nil (n : Nat) : decimal n ≠ [] := by
  rcases lt_or_ge n 10 with h | h
  · rw [decimal_of_lt h]
    simp
  · rw [decimal_of_le h]
    simp

theorem isAsciiDigit_of_mem_decimal {n : Nat} {c : Char} (hc : c ∈ decimal n) :
    isAsciiDigit c = true := by
  induction n using Nat.strong_induction_on with
  | h n ih =>
    rcases lt_or_ge n 10 with h | h
    · rw [decimal_of_lt h, List.mem_singleton] at hc
      rw [hc]
      exact isAsciiDigit_digitChar h
    · rw [decimal_of_le h, List.mem_append, List.mem_singleton] at hc
      rcases hc with hc | rfl
      · exact ih (n / 10) (by omega) hc
      · exact isAsciiDigit_digitChar (Nat.mod_lt n (by norm_num))

/-- A number has no more digits than the power of ten that it stays below. -/
theorem length_decimal_le {n k : Nat} (hk : 0 < k) (h : n < 10 ^ k) : (decimal n).length ≤ k := by
  induction n using Nat.strong_induction_on generalizing k with
  | h n ih =>
    rcases lt_or_ge n 10 with hn | hn
    · rw [decimal_of_lt hn]
      exact hk
    · obtain ⟨k, rfl⟩ : ∃ m, k = m + 1 := ⟨k - 1, by omega⟩
      have hpos : 0 < k := by
        rcases Nat.eq_zero_or_pos k with rfl | hk
        · omega
        · exact hk
      have hdiv : n / 10 < 10 ^ k := by
        rw [pow_succ] at h
        omega
      rw [decimal_of_le hn, List.length_append, List.length_singleton]
      exact Nat.succ_le_succ (ih (n / 10) (by omega) hpos hdiv)

/-! ### Values -/

/-- The values of the digits of a number. -/
def digitsOf (n : Nat) : List Nat := (decimal n).map fun c => c.toNat - 48

theorem ofDigits_append_singleton (base : Nat) (digits : List Nat) (d : Nat) :
    ofDigits base (digits ++ [d]) = ofDigits base digits * base + d := by
  rw [ofDigits, List.foldl_append]
  rfl

theorem ofDigits_digitsOf (n : Nat) : ofDigits 10 (digitsOf n) = n := by
  induction n using Nat.strong_induction_on with
  | h n ih =>
    rcases lt_or_ge n 10 with h | h
    · rw [digitsOf, decimal_of_lt h]
      change 0 * 10 + ((digitChar n).toNat - 48) = n
      rw [toNat_digitChar h]
      omega
    · have hmod : n % 10 < 10 := Nat.mod_lt n (by norm_num)
      have hinit := ih (n / 10) (by omega)
      rw [digitsOf] at hinit
      rw [digitsOf, decimal_of_le h, List.map_append, List.map_singleton,
        ofDigits_append_singleton, hinit, toNat_digitChar hmod]
      omega

theorem decimal_injective : Function.Injective decimal := by
  intro m n h
  rw [← ofDigits_digitsOf m, digitsOf, h]
  exact ofDigits_digitsOf n

/-! ### Texts of integers -/

theorem not_mem_integer {c : Char} (hc : isAsciiDigit c = false) (hsign : c ≠ '-') (n : Int) :
    c ∉ integer n := by
  intro h
  have hdigit : ∀ m : Nat, c ∉ decimal m := fun m hm =>
    absurd (hc.symm.trans (isAsciiDigit_of_mem_decimal hm)) (by simp)
  cases n with
  | ofNat n => exact hdigit n h
  | negSucc n => exact (List.mem_cons.mp h).elim hsign (hdigit (n + 1))

theorem integer_injective : Function.Injective integer := by
  intro m n h
  -- no digit is a minus sign
  have hsign : ∀ a b : Nat, decimal a ≠ '-' :: decimal b := by
    intro a b hab
    have hmem : '-' ∈ decimal a := by
      rw [hab]
      exact List.mem_cons_self
    exact absurd (isAsciiDigit_of_mem_decimal hmem) (by decide)
  cases m with
  | ofNat a =>
    cases n with
    | ofNat b => exact congrArg Int.ofNat (decimal_injective h)
    | negSucc b => exact absurd h (hsign a (b + 1))
  | negSucc a =>
    cases n with
    | ofNat b => exact absurd h.symm (hsign b (a + 1))
    | negSucc b =>
      have hnat : a + 1 = b + 1 := decimal_injective (List.cons.inj h).2
      rw [Nat.succ.inj hnat]

theorem toList_ofInt (n : Int) : (ofInt n).toList = integer n := String.toList_ofList

/-! ### Reading -/

theorem digitValue?_of_isAsciiDigit {c : Char} (h : isAsciiDigit c = true) :
    digitValue? 10 c = some (c.toNat - 48) := by
  have hlt : c.toNat - 48 < 10 := by
    have := isAsciiDigit_iff.mp h
    omega
  rw [digitValue?, if_pos h]
  exact if_pos hlt

/-- An underscore is no digit of any base. -/
theorem digitValue?_underscore (base : Nat) : digitValue? base '_' = none :=
  if_neg (Nat.lt_irrefl base)

/-- A run of digits is read digit by digit. -/
theorem digitRun_of_forall₂ {base : Nat} {cs : List Char} {digits : List Nat} (hne : cs ≠ [])
    (h : List.Forall₂ (fun c d => digitValue? base c = some d) cs digits) :
    digitRun base cs = some digits := by
  induction h with
  | nil => exact absurd rfl hne
  | @cons c d cs digits hc hcs ih =>
    cases hcs with
    | nil => rw [digitRun, hc]; rfl
    | @cons c' d' cs digits hc' hcs =>
      rw [digitRun, hc, ih (List.cons_ne_nil c' cs)]
      · rfl
      · exact List.cons_ne_nil c' cs
      · rintro cs' h'
        -- an underscore would be the next character
        rw [(List.cons.inj h').1, digitValue?_underscore] at hc'
        exact absurd hc' (by simp)

/-- A run of ASCII digits is read digit by digit. -/
theorem digitRun_of_digits {cs : List Char} (hne : cs ≠ [])
    (h : ∀ c ∈ cs, isAsciiDigit c = true) :
    digitRun 10 cs = some (cs.map fun c => c.toNat - 48) :=
  digitRun_of_forall₂ hne <| List.forall₂_map_right_iff.mpr <| List.forall₂_same.mpr fun c hc =>
    digitValue?_of_isAsciiDigit (h c hc)

theorem splitSign_decimal (n : Nat) : splitSign (decimal n) = (false, decimal n) := by
  rw [splitSign]
  · intro cs h
    exact absurd (isAsciiDigit_of_mem_decimal (h ▸ List.mem_cons_self)) (by decide)
  · intro cs h
    exact absurd (isAsciiDigit_of_mem_decimal (h ▸ List.mem_cons_self)) (by decide)

theorem isRunChar_of_isAsciiDigit {c : Char} (h : isAsciiDigit c = true) :
    isRunChar 10 c = true := by
  rw [isRunChar, digitValue?_of_isAsciiDigit h, Option.isSome_some, Bool.or_true]

theorem plain_of_isAsciiDigit {c : Char} (h : isAsciiDigit c = true) : plain c = c := by
  have hlt : c.toNat < 128 := by
    have := isAsciiDigit_iff.mp h
    omega
  rw [plain, if_pos hlt]

theorem isAsciiBlank_of_isAsciiDigit {c : Char} (h : isAsciiDigit c = true) :
    isAsciiBlank c = false := by
  have hle := (isAsciiDigit_iff.mp h).1
  have hspace : c ≠ ' ' := by
    rintro rfl
    exact absurd h (by decide)
  rw [isAsciiBlank, decide_eq_false hspace, Bool.false_or, Bool.and_eq_false_iff]
  exact .inr (decide_eq_false (by omega))

theorem map_plain_decimal (n : Nat) : (decimal n).map plain = decimal n :=
  (List.map_congr_left fun _ hc => plain_of_isAsciiDigit (isAsciiDigit_of_mem_decimal hc)).trans
    (List.map_id _)

theorem takeWhile_isRunChar_decimal (n : Nat) :
    (decimal n).takeWhile (isRunChar 10) = decimal n :=
  List.takeWhile_eq_self_iff.mpr fun _ hc =>
    isRunChar_of_isAsciiDigit (isAsciiDigit_of_mem_decimal hc)

theorem dropWhile_isRunChar_decimal (n : Nat) : (decimal n).dropWhile (isRunChar 10) = [] :=
  List.dropWhile_eq_nil_iff.mpr fun _ hc =>
    isRunChar_of_isAsciiDigit (isAsciiDigit_of_mem_decimal hc)

/-- What is left of an integer's text in front of its digits is its sign. -/
theorem splitSign_integer (n : Int) :
    splitSign (((integer n).map plain).dropWhile isAsciiBlank) =
      (decide (n < 0), decimal n.natAbs) := by
  cases n with
  | ofNat n =>
    obtain ⟨c, cs, hcs⟩ := List.exists_cons_of_ne_nil (decimal_ne_nil n)
    have hblank : isAsciiBlank c = false :=
      isAsciiBlank_of_isAsciiDigit (isAsciiDigit_of_mem_decimal (hcs ▸ List.mem_cons_self))
    have hdrop : (decimal n).dropWhile isAsciiBlank = decimal n := by
      rw [hcs, List.dropWhile_cons_of_neg (by rw [hblank]; exact Bool.false_ne_true)]
    rw [integer, map_plain_decimal, hdrop, splitSign_decimal]
    rfl
  | negSucc n =>
    rw [integer, List.map_cons, map_plain_decimal, decide_eq_true (Int.negSucc_lt_zero n)]
    rfl

theorem isTooLong_eq_false_iff {n : Int} : isTooLong n = false ↔ n.natAbs < 10 ^ maxDigits := by
  rw [isTooLong]
  generalize maxDigits = k
  exact (decide_eq_false_iff_not).trans not_le

theorem isTooLong_natCast {n : Nat} (h : n < 10 ^ maxDigits) : isTooLong (n : Int) = false := by
  rw [isTooLong_eq_false_iff, Int.natAbs_natCast]
  exact h

theorem isTooLong_add_one {n : Int} (hn : 0 ≤ n) (h : isTooLong n = true) :
    isTooLong (n + 1) = true := by
  by_contra hshort
  rw [Bool.not_eq_true, isTooLong_eq_false_iff] at hshort
  rw [isTooLong_eq_false_iff.mpr (by omega)] at h
  exact absurd h Bool.false_ne_true

/-- The first number that is too long. -/
theorem isTooLong_pow : isTooLong (Nat.pow 10 maxDigits : Nat) = true := by
  rw [isTooLong]
  generalize maxDigits = k
  exact decide_eq_true (le_of_eq (Int.natAbs_natCast _).symm)

/-- A number of few digits is not too long. -/
theorem lt_pow_maxDigits {n k : Nat} (h : n < 10 ^ k) (hk : k ≤ maxDigits) : n < 10 ^ maxDigits :=
  h.trans_le (Nat.pow_le_pow_right (by decide) hk)

theorem isTooLong_one : isTooLong 1 = false :=
  isTooLong_natCast (lt_pow_maxDigits (by decide : 1 < 10 ^ 1) (by decide))

/-- The text of an integer is read back, if it is not too long. -/
theorem readInteger_ofInt {n : Int} (h : isTooLong n = false) :
    readInteger 10 (ofInt n) = .ok n := by
  have hrun := digitRun_of_digits (decimal_ne_nil n.natAbs) fun c =>
    isAsciiDigit_of_mem_decimal
  have hlength : ¬maxDigits < (digitsOf n.natAbs).length := by
    rw [digitsOf, List.length_map]
    exact not_lt.mpr (length_decimal_le (by decide) (isTooLong_eq_false_iff.mp h))
  have hsign : (if decide (n < 0) = true then -(n.natAbs : Int) else n.natAbs) = n := by
    rcases lt_or_ge n 0 with hn | hn
    · rw [decide_eq_true hn, if_pos rfl]
      omega
    · rw [decide_eq_false (not_lt.mpr hn), if_neg Bool.false_ne_true]
      omega
  rw [readInteger, toList_ofInt, splitSign_integer]
  simp only [Nat.reduceEqDiff, if_false, takeWhile_isRunChar_decimal, hrun,
    dropWhile_isRunChar_decimal, List.all_nil]
  rw [← digitsOf, if_neg fun h => hlength h.2, if_neg (by decide), ofDigits_digitsOf, hsign]

/-! ### The numbers that are read -/

theorem ofDigits_lt {base : Nat} {digits : List Nat} (h : ∀ d ∈ digits, d < base) :
    ofDigits base digits < base ^ digits.length := by
  induction digits with
  | nil => exact Nat.one_pos
  | cons d digits ih =>
    have hd : d + 1 ≤ base := h d List.mem_cons_self
    have hrest := ih fun e he => h e (List.mem_cons_of_mem d he)
    calc ofDigits base (d :: digits)
        = d * base ^ digits.length + ofDigits base digits := ofDigits_cons base d digits
      _ < (d + 1) * base ^ digits.length := by rw [Nat.succ_mul]; omega
      _ ≤ base ^ (digits.length + 1) := by
        rw [pow_succ']
        exact Nat.mul_le_mul_right _ hd

theorem digitValue?_lt {base d : Nat} {c : Char} (h : digitValue? base c = some d) : d < base := by
  obtain ⟨hlt, hd⟩ := Option.ite_none_right_eq_some.mp h
  exact Option.some.inj hd ▸ hlt

theorem lt_of_mem_digitRun {base : Nat} {cs : List Char} {digits : List Nat}
    (h : digitRun base cs = some digits) : ∀ d ∈ digits, d < base := by
  fun_induction digitRun base cs generalizing digits with
  | case1 => exact absurd h (by simp)
  | case2 c =>
    obtain ⟨d, hd, rfl⟩ := Option.map_eq_some_iff.mp h
    exact List.forall_mem_singleton.mpr (digitValue?_lt hd)
  | case3 c rest ih | case4 c rest _ _ ih =>
    obtain ⟨d, hd, h⟩ := Option.bind_eq_some_iff.mp h
    obtain ⟨digits, hrun, rfl⟩ := Option.map_eq_some_iff.mp h
    exact List.forall_mem_cons.mpr ⟨digitValue?_lt hd, ih hrun⟩

/-- An integer that is read has not too many digits to be written. -/
theorem isTooLong_of_readInteger {text : String} {n : Int} (h : readInteger 10 text = .ok n) :
    isTooLong n = false := by
  simp only [readInteger, Nat.reduceEqDiff, if_false, true_and] at h
  split at h
  next => exact absurd h (by simp)
  next digits hrun =>
    split at h
    next => exact absurd h (by simp)
    next hlength =>
      split at h
      next => exact absurd h (by simp)
      next =>
        have habs : n.natAbs = ofDigits 10 digits := by
          rw [← Except.ok.inj h]
          split <;> simp
        rw [isTooLong_eq_false_iff, habs]
        exact (ofDigits_lt (lt_of_mem_digitRun hrun)).trans_le
          (Nat.pow_le_pow_right (by decide) (not_lt.mp hlength))

end Text

end LiabilityProof
