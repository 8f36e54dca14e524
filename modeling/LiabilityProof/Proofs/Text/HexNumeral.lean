import LiabilityProof.Proofs.Outcome
import LiabilityProof.Proofs.Text.Hex

/-!
# Which texts are hexadecimal

A numeral of base sixteen is a sign, the mark `0x` and a run of digits with single underscores
between them; the sign and the mark may be absent, an underscore may follow the mark, and there may
be blanks on both sides (`IsHexNumeral`). These are the texts that are read as integers in base
sixteen, with the value of their digits (`readInteger_sixteen_eq_ok_iff`), and they may have any
number of digits. Bytes are read from pairs of digits with blanks between the pairs (`IsHexPairs`).

A numeral is below `2 ^ 256` exactly if at most `64` digits are left of it without the zeros in
front, so a text alone tells whether it is an unsigned number of 256 bits (`IsWordNumeral`).
-/

namespace LiabilityProof

namespace Text

variable {base d : Nat} {c : Char} {cs : List Char} {digits : List Nat} {negative : Bool}

/-! ### Digits and blanks -/

/-- The code points of the digits of all bases. -/
theorem toNat_of_digitValue? (h : digitValue? base c = some d) : 48 ≤ c.toNat ∧ c.toNat ≤ 102 := by
  have hle : ∀ {a b : Char}, a ≤ b → a.toNat ≤ b.toNat := fun h => h
  unfold digitValue? at h
  split at h
  next hdigit =>
    have hbounds := isAsciiDigit_iff.mp hdigit
    omega
  next =>
    split at h
    next hletter =>
      have hlow : 97 ≤ c.toNat := hle hletter.1
      have hhigh : c.toNat ≤ 102 := hle hletter.2
      omega
    next =>
      split at h
      next hletter =>
        have hlow : 65 ≤ c.toNat := hle hletter.1
        have hhigh : c.toNat ≤ 70 := hle hletter.2
        omega
      next => exact absurd h (by simp)

theorem toNat_le_of_isAsciiBlank (h : isAsciiBlank c = true) : c.toNat ≤ 32 := by
  rw [isAsciiBlank, Bool.or_eq_true, Bool.and_eq_true] at h
  obtain h | ⟨-, h⟩ := h
  · rw [of_decide_eq_true h]
    decide
  · exact (of_decide_eq_true h).trans (by decide)

theorem isAsciiBlank_of_digitValue? (h : digitValue? base c = some d) : isAsciiBlank c = false := by
  refine eq_false_of_ne_true fun hblank => ?_
  have := toNat_le_of_isAsciiBlank hblank
  have := (toNat_of_digitValue? h).1
  omega

theorem isRunChar_of_digitValue? (h : digitValue? base c = some d) : isRunChar base c = true := by
  rw [isRunChar, h, Option.isSome_some, Bool.or_true]

/-- No blank belongs to a run of digits. -/
theorem not_isRunChar_of_isAsciiBlank (h : isAsciiBlank c = true) : ¬isRunChar base c = true := by
  have hle := toNat_le_of_isAsciiBlank h
  rw [isRunChar, Bool.or_eq_true, decide_eq_true_iff, Option.isSome_iff_exists]
  rintro (rfl | ⟨d, hd⟩)
  · exact absurd hle (by decide)
  · have hge := (toNat_of_digitValue? hd).1
    omega

/-! ### Runs of digits -/

/-- Digits of a base, with single underscores between them, and their values. -/
inductive IsDigitRun (base : Nat) : List Char → List Nat → Prop where
  | digit {c : Char} {d : Nat} (value : digitValue? base c = some d) : IsDigitRun base [c] [d]
  | adjacent {c : Char} {d : Nat} {cs : List Char} {digits : List Nat}
    (value : digitValue? base c = some d) (rest : IsDigitRun base cs digits) :
    IsDigitRun base (c :: cs) (d :: digits)
  | separated {c : Char} {d : Nat} {cs : List Char} {digits : List Nat}
    (value : digitValue? base c = some d) (rest : IsDigitRun base cs digits) :
    IsDigitRun base (c :: '_' :: cs) (d :: digits)

/-- A run starts with a digit. -/
theorem IsDigitRun.exists_cons (h : IsDigitRun base cs digits) :
    ∃ c cs' d, cs = c :: cs' ∧ digitValue? base c = some d := by
  cases h with
  | digit value | adjacent value | separated value => exact ⟨_, _, _, rfl, value⟩

theorem IsDigitRun.isRunChar (h : IsDigitRun base cs digits) :
    ∀ c ∈ cs, isRunChar base c = true := by
  induction h with
  | digit value => exact List.forall_mem_singleton.mpr (isRunChar_of_digitValue? value)
  | adjacent value _ ih => exact List.forall_mem_cons.mpr ⟨isRunChar_of_digitValue? value, ih⟩
  | separated value _ ih =>
    exact List.forall_mem_cons.mpr
      ⟨isRunChar_of_digitValue? value, List.forall_mem_cons.mpr ⟨rfl, ih⟩⟩

/-- A run ends where blanks begin. -/
theorem takeWhile_isRunChar_append {behind : List Char} (h : IsDigitRun base cs digits)
    (hbehind : ∀ c ∈ behind, isAsciiBlank c = true) :
    (cs ++ behind).takeWhile (Text.isRunChar base) = cs := by
  have hstop : behind.takeWhile (Text.isRunChar base) = [] :=
    List.takeWhile_eq_nil_iff.mpr fun _ =>
      not_isRunChar_of_isAsciiBlank (hbehind _ (List.get_mem _ _))
  rw [List.takeWhile_append_of_pos h.isRunChar, hstop, List.append_nil]

theorem dropWhile_isRunChar_append {behind : List Char} (h : IsDigitRun base cs digits)
    (hbehind : ∀ c ∈ behind, isAsciiBlank c = true) :
    (cs ++ behind).dropWhile (Text.isRunChar base) = behind := by
  rw [List.dropWhile_append_of_pos h.isRunChar]
  exact List.dropWhile_eq_self_iff.mpr fun _ =>
    not_isRunChar_of_isAsciiBlank (hbehind _ (List.getElem_mem _))

theorem digitRun_eq_some_iff : digitRun base cs = some digits ↔ IsDigitRun base cs digits := by
  constructor
  · intro h
    fun_induction digitRun base cs generalizing digits with
    | case1 => exact absurd h (by simp)
    | case2 c =>
      obtain ⟨d, hd, rfl⟩ := Option.map_eq_some_iff.mp h
      exact .digit hd
    | case3 c rest ih =>
      obtain ⟨d, hd, h⟩ := Option.bind_eq_some_iff.mp h
      obtain ⟨digits, hrun, rfl⟩ := Option.map_eq_some_iff.mp h
      exact .separated hd (ih hrun)
    | case4 c rest _ _ ih =>
      obtain ⟨d, hd, h⟩ := Option.bind_eq_some_iff.mp h
      obtain ⟨digits, hrun, rfl⟩ := Option.map_eq_some_iff.mp h
      exact .adjacent hd (ih hrun)
  · intro h
    induction h with
    | digit value => rw [digitRun, value]; rfl
    | separated value _ ih => rw [digitRun, value, ih]; rfl
    | @adjacent c d cs digits value rest ih =>
      -- what follows starts with a digit, and so with no underscore
      obtain ⟨c', cs', d', rfl, hc'⟩ := rest.exists_cons
      rw [digitRun, value, ih]
      · rfl
      · exact List.cons_ne_nil c' cs'
      · rintro cs'' h
        rw [(List.cons.inj h).1, digitValue?_underscore] at hc'
        exact absurd hc' (by simp)

/-! ### Numerals of base sixteen -/

/-- A sign, if there is one, and whether it is that of a negative number. -/
inductive IsSign : List Char → Bool → Prop where
  | absent : IsSign [] false
  | plus : IsSign ['+'] false
  | minus : IsSign ['-'] true

/-- The mark of base sixteen, if there is one. -/
inductive IsHexMark : List Char → Prop where
  | absent : IsHexMark []
  | mark {x : Char} (letter : x = 'x' ∨ x = 'X') : IsHexMark ['0', x]
  | underscored {x : Char} (letter : x = 'x' ∨ x = 'X') : IsHexMark ['0', x, '_']

/-- A numeral of base sixteen, its sign and its digits. -/
inductive IsHexNumeral : List Char → Bool → List Nat → Prop where
  | intro {before sign mark run behind : List Char} {negative : Bool} {digits : List Nat}
    (hbefore : ∀ c ∈ before, isAsciiBlank c = true) (hsign : IsSign sign negative)
    (hmark : IsHexMark mark) (hrun : IsDigitRun 16 run digits)
    (hbehind : ∀ c ∈ behind, isAsciiBlank c = true) :
    IsHexNumeral (before ++ (sign ++ (mark ++ (run ++ behind)))) negative digits

/-- The integer of a sign and a number. -/
def signed (negative : Bool) (n : Nat) : Int := if negative then -n else n

/-- The text is a numeral of base sixteen for an integer. The blanks and the digits may be those of
any script. -/
def IsHexInteger (text : String) (n : Int) : Prop :=
  ∃ negative digits, IsHexNumeral (text.toList.map plain) negative digits ∧
    n = signed negative (ofDigits 16 digits)

/-! ### The parts of a numeral -/

theorem exists_isSign {rest : List Char} (h : splitSign cs = (negative, rest)) :
    ∃ sign, IsSign sign negative ∧ cs = sign ++ rest := by
  unfold splitSign at h
  split at h <;> obtain ⟨rfl, rfl⟩ := Prod.mk.inj h
  · exact ⟨['-'], .minus, rfl⟩
  · exact ⟨['+'], .plus, rfl⟩
  · exact ⟨[], .absent, rfl⟩

/-- No digit is a sign. -/
theorem splitSign_append {sign : List Char} (hsign : IsSign sign negative)
    (hc : digitValue? base c = some d) : splitSign (sign ++ c :: cs) = (negative, c :: cs) := by
  have hle := (toNat_of_digitValue? hc).1
  cases hsign with
  | minus | plus => rfl
  | absent =>
    rw [List.nil_append, splitSign]
    -- neither row of the two signs applies
    all_goals
      rintro rest h
      rw [(List.cons.inj h).1] at hle
      exact absurd hle (by decide)

/-- Neither a sign nor a digit is a blank. -/
theorem dropWhile_isAsciiBlank_append {before sign : List Char}
    (hbefore : ∀ c ∈ before, isAsciiBlank c = true) (hsign : IsSign sign negative)
    (hc : digitValue? base c = some d) :
    (before ++ (sign ++ c :: cs)).dropWhile isAsciiBlank = sign ++ c :: cs := by
  rw [List.dropWhile_append_of_pos hbefore]
  cases hsign with
  | minus | plus => rfl
  | absent =>
    exact List.dropWhile_cons_of_neg (by rw [isAsciiBlank_of_digitValue? hc]; decide)

theorem exists_isHexMark (cs : List Char) :
    ∃ mark, IsHexMark mark ∧ cs = mark ++ dropHexMark cs := by
  unfold dropHexMark
  split
  next x rest =>
    split
    next hx =>
      split
      · exact ⟨_, .underscored hx, rfl⟩
      · exact ⟨_, .mark hx, rfl⟩
    next => exact ⟨[], .absent, rfl⟩
  next => exact ⟨[], .absent, rfl⟩

theorem dropHexMark_eq_self (h : ∀ c ∈ cs, ¬(c = 'x' ∨ c = 'X')) : dropHexMark cs = cs := by
  unfold dropHexMark
  split
  next x rest =>
    exact if_neg (h x (List.mem_cons_of_mem _ List.mem_cons_self))
  next => rfl

/-- The letter of the mark belongs to no run of digits and is no blank. -/
theorem dropHexMark_append {mark run behind : List Char} (hmark : IsHexMark mark)
    (hrun : IsDigitRun 16 run digits) (hbehind : ∀ c ∈ behind, isAsciiBlank c = true) :
    dropHexMark (mark ++ (run ++ behind)) = run ++ behind := by
  cases hmark with
  | absent =>
    refine dropHexMark_eq_self fun x hx hletter => ?_
    obtain hx | hx : x ∈ run ∨ x ∈ behind := List.mem_append.mp hx
    · have hchar := hrun.isRunChar x hx
      obtain rfl | rfl := hletter <;> exact absurd hchar (by decide)
    · have hblank := hbehind x hx
      obtain rfl | rfl := hletter <;> exact absurd hblank (by decide)
  | underscored hletter => exact if_pos hletter
  | mark hletter =>
    obtain ⟨c, cs, d, rfl, hc⟩ := hrun.exists_cons
    refine (if_pos hletter).trans ?_
    split
    next rest h =>
      rw [(List.cons.inj h).1, digitValue?_underscore] at hc
      exact absurd hc (by simp)
    next => rfl

/-- The mark starts with a digit, and so does what follows it. -/
theorem exists_cons_of_isHexMark {mark run : List Char} (hmark : IsHexMark mark)
    (hrun : IsDigitRun 16 run digits) (behind : List Char) :
    ∃ c cs d, mark ++ (run ++ behind) = c :: cs ∧ digitValue? 16 c = some d := by
  cases hmark with
  | mark | underscored => exact ⟨_, _, 0, rfl, by decide⟩
  | absent =>
    obtain ⟨c, cs, d, rfl, hc⟩ := hrun.exists_cons
    exact ⟨_, _, d, rfl, hc⟩

/-! ### Reading numerals -/

/-- What is read are the digits in front of the first character that belongs to no run, and there
must be nothing but blanks behind them. -/
theorem readInteger_sixteen_of_parts {text : String} {n : Int} {unsigned body : List Char}
    (hsign : splitSign ((text.toList.map plain).dropWhile isAsciiBlank) = (negative, unsigned))
    (hmark : dropHexMark unsigned = body) :
    readInteger 16 text = .ok n ↔ ∃ digits,
      IsDigitRun 16 (body.takeWhile (isRunChar 16)) digits ∧
      (∀ c ∈ body.dropWhile (isRunChar 16), isAsciiBlank c = true) ∧
      n = signed negative (ofDigits 16 digits) := by
  rw [readInteger, hsign]
  dsimp only
  rw [if_pos rfl, hmark]
  simp only [← digitRun_eq_some_iff]
  cases hrun : digitRun 16 (body.takeWhile (isRunChar 16)) with
  | none => simp
  | some digits =>
    dsimp only
    -- base sixteen has no bound on the number of digits
    rw [if_neg fun h => absurd h.1 (by decide)]
    cases hblank : (body.dropWhile (isRunChar 16)).all isAsciiBlank with
    | false =>
      refine iff_of_false (by simp) ?_
      rintro ⟨_, _, h, _⟩
      exact absurd (List.all_eq_true.mpr h) (by rw [hblank]; exact Bool.false_ne_true)
    | true =>
      rw [if_neg (by decide), Except.ok.injEq]
      constructor
      · intro h
        exact ⟨digits, rfl, List.all_eq_true.mp hblank, h.symm⟩
      · rintro ⟨digits', h, -, hn⟩
        rw [Option.some.inj h]
        exact hn.symm

/-- The texts that are read in base sixteen are the numerals. -/
theorem readInteger_sixteen_eq_ok_iff {text : String} {n : Int} :
    readInteger 16 text = .ok n ↔ IsHexInteger text n := by
  generalize htext : text.toList.map plain = cs
  constructor
  · intro h
    -- the text is put together again from what is taken off it
    obtain ⟨⟨negative, unsigned⟩, hsplit⟩ :
        ∃ parts, splitSign (cs.dropWhile isAsciiBlank) = parts := ⟨_, rfl⟩
    obtain ⟨sign, hsign, hrest⟩ := exists_isSign hsplit
    obtain ⟨mark, hmark, hunsigned⟩ := exists_isHexMark unsigned
    obtain ⟨digits, hrun, hbehind, hn⟩ :=
      (readInteger_sixteen_of_parts (htext ▸ hsplit) rfl).mp h
    have hbefore : ∀ c ∈ cs.takeWhile isAsciiBlank, isAsciiBlank c = true := fun c =>
      List.mem_takeWhile_imp
    have hparts := IsHexNumeral.intro hbefore hsign hmark hrun hbehind
    rw [List.takeWhile_append_dropWhile, ← hunsigned, ← hrest,
      List.takeWhile_append_dropWhile] at hparts
    exact ⟨negative, digits, htext ▸ hparts, hn⟩
  · rintro ⟨negative, digits, hnumeral, rfl⟩
    rw [htext] at hnumeral
    cases hnumeral with
    | @intro before sign mark run behind _ _ hbefore hsign hmark hrun hbehind =>
      obtain ⟨c, cs, d, hcons, hc⟩ := exists_cons_of_isHexMark hmark hrun behind
      have hsplit : splitSign ((text.toList.map plain).dropWhile isAsciiBlank) =
          (negative, mark ++ (run ++ behind)) := by
        rw [htext, hcons, dropWhile_isAsciiBlank_append hbefore hsign hc, splitSign_append hsign hc]
      rw [readInteger_sixteen_of_parts hsplit (dropHexMark_append hmark hrun hbehind)]
      refine ⟨digits, ?_, ?_, rfl⟩
      · rw [takeWhile_isRunChar_append hrun hbehind]
        exact hrun
      · rw [dropWhile_isRunChar_append hrun hbehind]
        exact hbehind

/-! ### Pairs of digits -/

/-- Pairs of digits, with blanks between the pairs, and the bytes they are. -/
inductive IsHexPairs : List Char → List UInt8 → Prop where
  | nil : IsHexPairs [] []
  | blank {c : Char} {cs : List Char} {bytes : List UInt8} (hc : isAsciiBlank c = true)
    (hrest : IsHexPairs cs bytes) : IsHexPairs (c :: cs) bytes
  | pair {c c' : Char} {cs : List Char} {bytes : List UInt8} {high low : Nat}
    (hhigh : digitValue? 16 c = some high) (hlow : digitValue? 16 c' = some low)
    (hrest : IsHexPairs cs bytes) :
    IsHexPairs (c :: c' :: cs) (UInt8.ofNat (high * 16 + low) :: bytes)

theorem readPairs_eq_ok_iff {position : Nat} {bytes : List UInt8} :
    readPairs position cs = .ok bytes ↔ IsHexPairs cs bytes := by
  constructor
  · intro h
    fun_induction readPairs position cs generalizing bytes with
    | case1 =>
      obtain rfl := Except.ok.inj h
      exact .nil
    | case2 position c rest hc ih => exact .blank hc (ih h)
    | case3 | case4 | case5 => exact absurd h (by simp)
    | case6 position c _ high hhigh c' rest low hlow ih =>
      obtain ⟨bytes, hrest, rfl⟩ := map_eq_ok_iff.mp h
      exact .pair hhigh hlow (ih hrest)
  · intro h
    induction h generalizing position with
    | nil => rfl
    | blank hc _ ih => rw [readPairs, if_pos hc, ih]
    | pair hhigh hlow _ ih =>
      rw [readPairs, isAsciiBlank_of_digitValue? hhigh, if_neg Bool.false_ne_true]
      simp only [hhigh, hlow, ih]
      rfl

/-- Blanks and digits are characters of ASCII. -/
theorem IsHexPairs.toNat_le {bytes : List UInt8} (h : IsHexPairs cs bytes) :
    ∀ c ∈ cs, c.toNat ≤ 127 := by
  induction h with
  | nil => exact fun c hc => absurd hc List.not_mem_nil
  | blank hc _ ih =>
    exact List.forall_mem_cons.mpr ⟨(toNat_le_of_isAsciiBlank hc).trans (by decide), ih⟩
  | pair hhigh hlow _ ih =>
    exact List.forall_mem_cons.mpr ⟨(toNat_of_digitValue? hhigh).2.trans (by decide),
      List.forall_mem_cons.mpr ⟨(toNat_of_digitValue? hlow).2.trans (by decide), ih⟩⟩

/-- The texts without mark that are read as bytes are the pairs of digits. -/
theorem readHex_eq_ok_iff {bytes : List UInt8} : readHex cs = .ok bytes ↔ IsHexPairs cs bytes := by
  constructor
  · intro h
    rw [readHex] at h
    split at h
    · exact absurd h (by simp)
    · exact readPairs_eq_ok_iff.mp h
  · intro h
    have hascii : cs.findIdx? (fun c => decide (127 < c.toNat)) = none :=
      List.findIdx?_eq_none_iff.mpr fun c hc => decide_eq_false (not_lt.mpr (h.toNat_le c hc))
    rw [readHex, hascii]
    exact readPairs_eq_ok_iff.mpr h

/-! ### Numbers of 256 bits -/

theorem ofDigits_lt_pow_iff (hbase : 0 < base) (h : ∀ d ∈ digits, d < base) {k : Nat} :
    ofDigits base digits < base ^ k ↔ (digits.dropWhile (· = 0)).length ≤ k := by
  induction digits with
  | nil => exact iff_of_true (Nat.pow_pos hbase) k.zero_le
  | cons d digits ih =>
    rcases Nat.eq_zero_or_pos d with rfl | hd
    · -- a zero in front changes neither side
      rw [ofDigits_cons, Nat.zero_mul, Nat.zero_add, List.dropWhile_cons_of_pos rfl]
      exact ih fun e he => h e (List.mem_cons_of_mem _ he)
    · rw [List.dropWhile_cons_of_neg (by simpa using hd.ne'), List.length_cons]
      constructor
      · intro hlt
        by_contra hk
        have hle : base ^ k ≤ base ^ digits.length := Nat.pow_le_pow_right hbase (by omega)
        have hmul : base ^ digits.length ≤ d * base ^ digits.length := Nat.le_mul_of_pos_left _ hd
        have hcons : ofDigits base (d :: digits) =
            d * base ^ digits.length + ofDigits base digits := ofDigits_cons base d digits
        omega
      · intro hk
        exact (ofDigits_lt h).trans_le (Nat.pow_le_pow_right hbase hk)

theorem ofDigits_eq_zero_iff (hbase : 0 < base) (h : ∀ d ∈ digits, d < base) :
    ofDigits base digits = 0 ↔ ∀ d ∈ digits, d = 0 := by
  have hiff := ofDigits_lt_pow_iff hbase h (k := 0)
  rw [pow_zero, Nat.lt_one_iff, Nat.le_zero, List.length_eq_zero_iff,
    List.dropWhile_eq_nil_iff] at hiff
  simpa using hiff

/-- The text is a numeral of base sixteen for an unsigned number of 256 bits: without the zeros in
front there are at most `64` digits, and only zero has a minus sign. -/
def IsWordNumeral (text : String) : Prop :=
  ∃ negative digits, IsHexNumeral (text.toList.map plain) negative digits ∧
    (digits.dropWhile (· = 0)).length ≤ 64 ∧ (negative = true → ∀ d ∈ digits, d = 0)

theorem IsHexNumeral.lt (h : IsHexNumeral cs negative digits) : ∀ d ∈ digits, d < 16 := by
  cases h with
  | intro _ _ _ hrun => exact lt_of_mem_digitRun (digitRun_eq_some_iff.mpr hrun)

/-- The bounds of the number, read off its sign and its digits. -/
theorem signed_bounds_iff (h : ∀ d ∈ digits, d < 16) :
    (0 ≤ signed negative (ofDigits 16 digits) ∧ signed negative (ofDigits 16 digits) < 2 ^ 256) ↔
      (digits.dropWhile (· = 0)).length ≤ 64 ∧ (negative = true → ∀ d ∈ digits, d = 0) := by
  have hpow : ofDigits 16 digits < 2 ^ 256 ↔ (digits.dropWhile (· = 0)).length ≤ 64 := by
    rw [show 2 ^ 256 = 16 ^ 64 by norm_num, ofDigits_lt_pow_iff (by decide) h]
  rw [← hpow, ← ofDigits_eq_zero_iff (by decide) h]
  generalize ofDigits 16 digits = n
  cases negative with
  | false =>
    have hpos : (0 : Int) ≤ n := Int.natCast_nonneg n
    simp only [signed, Bool.false_eq_true, if_false, false_imp_iff, and_true, hpos, true_and]
    exact_mod_cast Iff.rfl
  | true =>
    simp only [signed, if_true, true_imp_iff]
    omega

/-- A numeral tells whether its integer is an unsigned number of 256 bits. -/
theorem IsHexInteger.bounds_iff {text : String} {n : Int} (h : IsHexInteger text n) :
    (0 ≤ n ∧ n < 2 ^ 256) ↔ IsWordNumeral text := by
  constructor
  · intro hn
    obtain ⟨negative, digits, hnumeral, rfl⟩ := h
    exact ⟨negative, digits, hnumeral, (signed_bounds_iff hnumeral.lt).mp hn⟩
  · rintro ⟨negative, digits, hnumeral, hdigits⟩
    -- both readings are that of the one reader
    have hread : readInteger 16 text = .ok (signed negative (ofDigits 16 digits)) :=
      readInteger_sixteen_eq_ok_iff.mpr ⟨negative, digits, hnumeral, rfl⟩
    obtain rfl := Except.ok.inj (hread.symm.trans (readInteger_sixteen_eq_ok_iff.mpr h))
    exact (signed_bounds_iff hnumeral.lt).mpr hdigits

end Text

end LiabilityProof
