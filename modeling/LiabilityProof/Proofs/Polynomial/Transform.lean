import LiabilityProof.Proofs.Field.Roots
import LiabilityProof.Proofs.Polynomial.Algebra
import LiabilityProof.Proofs.Polynomial.Stages

/-!
# The transform evaluates, and its inverse interpolates

The value of some coefficients at `x` is made of the values of those of even and of odd index at
`x * x`, and half a turn changes the sign of `x` only. Halving `d` times parts the coefficients
into `2 ^ d` lists; which of them a coefficient is in, and where, can be read off its index
(`getD_part`). That is the order in which `Transform.bitReversed` lays the coefficients out.

The invariant of the stages is `HoldsParts`: every block holds the values of its part at the powers
of a root. A stage undoes one halving (`HoldsParts.stage`), so after all of them the entries are
the values of the coefficients at the powers of `ω` (`forward_eq_ok`).

`Transform.backward` transforms for the inverse root and divides by the length. Its results are
coefficients of the given values (`horner_coefficients`), because the powers of the quotient of
two different points cancel.
-/

namespace LiabilityProof

open scoped Residue

namespace Transform

/-! ### Halving -/

/-- The entries of even index. -/
def evens : List Scalar → List Scalar
  | [] => []
  | [a] => [a]
  | a :: _ :: rest => a :: evens rest

/-- The entries of odd index. -/
def odds : List Scalar → List Scalar
  | [] => []
  | [_] => []
  | _ :: b :: rest => b :: odds rest

theorem length_evens_odds (k : Nat) :
    ∀ cs : List Scalar, cs.length = 2 * k → (evens cs).length = k ∧ (odds cs).length = k := by
  induction k with
  | zero =>
    rintro (_ | ⟨a, cs⟩) h
    · exact ⟨rfl, rfl⟩
    · simp at h
  | succ k ih =>
    rintro (_ | ⟨a, _ | ⟨b, cs⟩⟩) h
    · simp at h
    · simp at h
      omega
    · have hcs : cs.length = 2 * k := by
        simp only [List.length_cons] at h
        omega
      rw [evens, odds, List.length_cons, List.length_cons, (ih cs hcs).1, (ih cs hcs).2]
      exact ⟨rfl, rfl⟩

theorem getD_evens (cs : List Scalar) (i : Nat) : (evens cs).getD i 0 = cs.getD (2 * i) 0 := by
  induction cs using evens.induct generalizing i with
  | case1 => simp [evens]
  | case2 a => cases i <;> simp [evens]
  | case3 a b rest ih =>
    cases i with
    | zero => simp [evens]
    | succ i => rw [evens, List.getD_cons_succ, ih, Nat.mul_succ, List.getD_cons_succ,
        List.getD_cons_succ]

theorem getD_odds (cs : List Scalar) (i : Nat) : (odds cs).getD i 0 = cs.getD (2 * i + 1) 0 := by
  induction cs using odds.induct generalizing i with
  | case1 => simp [odds]
  | case2 a => simp [odds]
  | case3 a b rest ih =>
    cases i with
    | zero => simp [odds]
    | succ i => rw [odds, List.getD_cons_succ, ih, Nat.mul_succ, List.getD_cons_succ,
        List.getD_cons_succ]

/-- The value at `x` from those of the two halves at the square. -/
theorem horner_eq_evens_add_odds (x : Scalar) (cs : List Scalar) :
    Poly.horner x cs = Poly.horner (x * x) (evens cs) + x * Poly.horner (x * x) (odds cs) := by
  induction cs using evens.induct with
  | case1 => simp [evens, odds]
  | case2 a => simp [evens, odds]
  | case3 a b rest ih =>
    rw [evens, odds, Poly.horner_cons, Poly.horner_cons, Poly.horner_cons, Poly.horner_cons, ih]
    ring

/-! ### Halving several times -/

/-- The `b`-th part of the coefficients after `d` halvings. Its halves are the parts `2 * b` and
`2 * b + 1` after the next one. -/
def part (cs : List Scalar) : Nat → Nat → List Scalar
  | 0, _ => cs
  | d + 1, b => if b % 2 = 0 then evens (part cs d (b / 2)) else odds (part cs d (b / 2))

theorem part_two_mul (cs : List Scalar) (d b : Nat) :
    part cs (d + 1) (2 * b) = evens (part cs d b) := by
  rw [part, if_pos (Nat.mul_mod_right 2 b), Nat.mul_div_cancel_left b Nat.two_pos]

theorem part_two_mul_add_one (cs : List Scalar) (d b : Nat) :
    part cs (d + 1) (2 * b + 1) = odds (part cs d b) := by
  have hdiv : (2 * b + 1) / 2 = b := by omega
  rw [part, if_neg (by omega), hdiv]

theorem length_part {cs : List Scalar} {d j : Nat} (hcs : cs.length = 2 ^ (j + d)) (b : Nat) :
    (part cs d b).length = 2 ^ j := by
  induction d generalizing j b with
  | zero => exact hcs
  | succ d ih =>
    have hhalves := length_evens_odds (2 ^ j) (part cs d (b / 2)) (by
      rw [ih (j := j + 1) (by rw [hcs]; congr 1; omega), pow_succ, mul_comm])
    rw [part]
    split
    · exact hhalves.1
    · exact hhalves.2

/-- The coefficients of a part are those whose index ends in the digits of `b` in reverse order. -/
theorem getD_part (cs : List Scalar) (d b i : Nat) :
    (part cs d b).getD i 0 = cs.getD (reversed d b + 2 ^ d * i) 0 := by
  induction d generalizing b i with
  | zero =>
    have hindex : reversed 0 b + 2 ^ 0 * i = i := by
      rw [pow_zero, one_mul]
      exact Nat.zero_add i
    rw [part, hindex]
  | succ d ih =>
    have hreversed : reversed (d + 1) b = b % 2 * 2 ^ d + reversed d (b / 2) := reversed_succ d b
    rw [part, hreversed]
    split
    next hb =>
      rw [getD_evens, ih, hb]
      congr 1
      ring
    next hb =>
      rw [getD_odds, ih, Nat.mod_two_ne_zero.mp hb]
      congr 1
      ring

/-! ### The values of the coefficients -/

/-- The state of the transform with `d` stages to go and blocks of `2 ^ j` entries: the `b`-th block
holds the values of the `b`-th part after `d` halvings, at the powers of the root `ω ^ 2 ^ d`. -/
def HoldsParts (cs : List Scalar) (ω : Scalar) (d j : Nat) {n : Nat} (v : Vector Scalar n) : Prop :=
  ∀ b < 2 ^ d, ∀ m < 2 ^ j, ∀ i, i = b * 2 ^ j + m → ∀ h : i < n,
    v[i] = Poly.horner (ω ^ (2 ^ d * m)) (part cs d b)

namespace HoldsParts

variable {cs : List Scalar} {ω : Scalar} {d j n : Nat} {v : Vector Scalar n}

/-- Blocks of one entry hold the coefficients themselves, in the order of reversed indices. -/
theorem bitReversed {k : Nat} (hcs : cs.length = 2 ^ k) (h : isLength cs.length = true) :
    HoldsParts cs ω k 0 (bitReversed h ⟨cs.toArray, rfl⟩) := by
  rintro b hb m hm i rfl hi
  obtain rfl : m = 0 := by omega
  obtain ⟨c, hc⟩ := List.length_eq_one_iff.mp (length_part (j := 0) (by rw [zero_add, hcs]) b)
  have hcoefficient := getD_part cs k b 0
  rw [hc, List.getD_cons_zero, mul_zero, add_zero] at hcoefficient
  have hlog : cs.length.log2 = k := by rw [hcs, Nat.log2_two_pow]
  have hlt : reversed k b < cs.length := by
    rw [hcs]
    exact reversed_lt k b
  rw [List.getD_eq_getElem _ _ hlt] at hcoefficient
  rw [Transform.bitReversed, Vector.getElem_ofFn]
  simp [hlog, hc, hcoefficient]

/-- Neighbouring blocks hold the values of the two halves of one part, at the squares of the points
that the stage to come is for. -/
theorem halves (h : HoldsParts cs ω (d + 1) j v) {b m i : Nat} (hb : b < 2 ^ d) (hm : m < 2 ^ j)
    (hi : i = b * (2 * 2 ^ j) + m) (hin : i + 2 ^ j < n) :
    v[i] = Poly.horner (ω ^ (2 ^ d * m) * ω ^ (2 ^ d * m)) (evens (part cs d b)) ∧
      v[i + 2 ^ j] = Poly.horner (ω ^ (2 ^ d * m) * ω ^ (2 ^ d * m)) (odds (part cs d b)) := by
  have hsquare : ω ^ (2 ^ d * m) * ω ^ (2 ^ d * m) = ω ^ (2 ^ (d + 1) * m) := by
    rw [← pow_add]
    congr 1
    ring
  rw [hsquare, ← part_two_mul, ← part_two_mul_add_one]
  constructor
  · exact h (2 * b) (by rw [pow_succ]; omega) m hm i (by rw [hi]; ring) (by omega)
  · exact h (2 * b + 1) (by rw [pow_succ]; omega) m hm (i + 2 ^ j) (by rw [hi]; ring) hin

/-- A stage makes the values of a part from those of its halves. -/
theorem stage (hn : n = 2 ^ (j + (d + 1))) (hω : HalfTurn (j + (d + 1)) ω)
    (h : HoldsParts cs ω (d + 1) j v) : HoldsParts cs ω d (j + 1) (stage ω (2 ^ j) v) := by
  intro b hb m hm i hi hin
  have hsplit : n = 2 ^ d * (2 * 2 ^ j) := by rw [hn]; ring
  have hcount : n / (2 * 2 ^ j) = 2 ^ d := by
    rw [hsplit, Nat.mul_div_cancel _ (by positivity)]
  have hblocks : i = b * (2 * 2 ^ j) + m := by rw [hi, pow_succ']
  have hfits : b * (2 * 2 ^ j) + 2 * 2 ^ j ≤ n := by
    rw [hsplit, ← Nat.succ_mul]
    exact Nat.mul_le_mul_right _ hb
  rw [pow_succ'] at hm
  rcases lt_or_ge m (2 ^ j) with hlt | hge
  · have hpair := (getElem_stage (ω := ω) (v := v) (by rwa [hcount]) hlt hblocks (by omega)).1
    obtain ⟨heven, hodd⟩ := h.halves hb hlt hblocks (by omega)
    rw [hpair, hcount, ← pow_mul, heven, hodd, ← horner_eq_evens_add_odds]
  · -- half a turn on, the square is the same and the sign is not
    obtain ⟨m, rfl⟩ : ∃ m', m = m' + 2 ^ j := ⟨m - 2 ^ j, by omega⟩
    obtain ⟨i, rfl⟩ : ∃ i', i = i' + 2 ^ j := ⟨i - 2 ^ j, by omega⟩
    have hlt : m < 2 ^ j := by omega
    have hindex : i = b * (2 * 2 ^ j) + m := by omega
    have hhalf : ω ^ (2 ^ d * (m + 2 ^ j)) = -ω ^ (2 ^ d * m) := by
      have hturn : ω ^ (2 ^ d * 2 ^ j) = -1 := by
        rw [← pow_add, add_comm]
        exact hω.pow_half
      rw [mul_add, pow_add, hturn, mul_neg_one]
    have hpair := (getElem_stage (ω := ω) (v := v) (by rwa [hcount]) hlt hindex hin).2
    obtain ⟨heven, hodd⟩ := h.halves hb hlt hindex hin
    rw [hpair, hcount, ← pow_mul, heven, hodd, hhalf,
      horner_eq_evens_add_odds (-ω ^ (2 ^ d * m)), neg_mul_neg, neg_mul, ← sub_eq_add_neg]

/-- After the last stage the only block holds the values of all coefficients. -/
theorem stages (hn : n = 2 ^ (j + d)) (hω : HalfTurn (j + d) ω) (h : HoldsParts cs ω d j v) :
    HoldsParts cs ω 0 (j + d) (stages ω d (2 ^ j) v) := by
  induction d generalizing j v with
  | zero => exact h
  | succ d ih =>
    have hexponent : j + 1 + d = j + (d + 1) := by omega
    have hrun := ih (j := j + 1) (hexponent ▸ hn) (hexponent ▸ hω) (h.stage hn hω)
    rw [hexponent, pow_succ'] at hrun
    exact hrun

end HoldsParts

theorem isLength_two_pow (k : Nat) : isLength (2 ^ k) = true := by
  have hpower : (2 ^ k).isPowerOfTwo := ⟨k, rfl⟩
  exact decide_eq_true
    ((Nat.and_sub_one_eq_zero_iff_isPowerOfTwo (by positivity)).mpr hpower)

/-- The forward transform evaluates. -/
theorem forward_eq_ok {k : Nat} {ω : Scalar} (hω : HalfTurn k ω) {cs : List Scalar}
    (hcs : cs.length = 2 ^ k) :
    forward cs ω = .ok ((List.range (2 ^ k)).map fun i => Poly.horner (ω ^ i) cs) := by
  have hlength : isLength cs.length = true := by rw [hcs]; exact isLength_two_pow k
  have hlog : cs.length.log2 = k := by rw [hcs, Nat.log2_two_pow]
  have hholds : HoldsParts cs ω 0 k (transform hlength ω ⟨cs.toArray, rfl⟩) := by
    have hstages := (HoldsParts.bitReversed (ω := ω) hcs hlength).stages
      (by rw [zero_add, hcs]) (by rwa [zero_add])
    rw [zero_add, pow_zero] at hstages
    rwa [transform, hlog]
  rw [forward, dif_pos hlength]
  congr 1
  refine List.ext_getElem (by simp [hcs]) fun i hi hi' => ?_
  rw [Vector.getElem_toList, List.getElem_map, List.getElem_range]
  rw [List.length_map, List.length_range] at hi'
  have hvalue := hholds 0 one_pos i hi' i (by rw [zero_mul, zero_add]) (by rwa [hcs])
  rwa [pow_zero, one_mul] at hvalue

/-! ### The coefficients of values -/

/-- The coefficients of the polynomial with the given values. -/
def coefficients (k : Nat) (ω : Scalar) (values : List Scalar) : List Scalar :=
  (List.range (2 ^ k)).map fun m => Poly.horner (ω⁻¹ ^ m) values * (2 ^ k)⁻¹

theorem horner_eq_sum (x : Scalar) (cs : List Scalar) :
    Poly.horner x cs = ∑ i ∈ Finset.range cs.length, cs.getD i 0 * x ^ i := by
  induction cs with
  | nil => rfl
  | cons c cs ih =>
    rw [Poly.horner_cons, ih, List.length_cons, Finset.sum_range_succ', Finset.sum_mul]
    simp only [List.getD_cons_succ, List.getD_cons_zero, pow_succ, pow_zero, mul_one, mul_assoc]

theorem backward_eq_ok {k : Nat} {ω : Scalar} (hω : HalfTurn k ω) {values : List Scalar}
    (hvalues : values.length = 2 ^ k) :
    backward values ω = .ok (coefficients k ω values) := by
  have hinv : (1 : Scalar) / ω = ω⁻¹ := one_div ω
  have hlength : (1 : Scalar) / Scalar.encode values.length = (2 ^ k)⁻¹ := by
    rw [hvalues, one_div, Scalar.encode, Residue.ofNat_eq_cast]
    push_cast
    rfl
  rw [backward, hinv, forward_eq_ok hω.inv hvalues, hlength, Except.map, List.map_map]
  rfl

theorem length_coefficients (k : Nat) (ω : Scalar) (values : List Scalar) :
    (coefficients k ω values).length = 2 ^ k := by
  rw [coefficients, List.length_map, List.length_range]

/-- The coefficients have the given values at the powers of the root. -/
theorem horner_coefficients {k : Nat} {ω : Scalar} (hω : HalfTurn k ω) {values : List Scalar}
    (hvalues : values.length = 2 ^ k) {i : Nat} (hi : i < 2 ^ k) :
    Poly.horner (ω ^ i) (coefficients k ω values) = values.getD i 0 := by
  have hcoefficient : ∀ m ∈ Finset.range (2 ^ k), (coefficients k ω values).getD m 0 =
      (∑ j ∈ Finset.range (2 ^ k), values.getD j 0 * (ω⁻¹ ^ m) ^ j) * (2 ^ k)⁻¹ := by
    intro m hm
    have hm' : m < (coefficients k ω values).length := by
      rw [length_coefficients]
      exact Finset.mem_range.mp hm
    rw [List.getD_eq_getElem _ _ hm', ← hvalues, ← horner_eq_sum]
    simp [coefficients]
  have hne : (2 ^ k : Scalar) ≠ 0 := pow_ne_zero k (by decide)
  calc Poly.horner (ω ^ i) (coefficients k ω values)
      = ∑ m ∈ Finset.range (2 ^ k), (∑ j ∈ Finset.range (2 ^ k),
          values.getD j 0 * (ω⁻¹ ^ m) ^ j) * (2 ^ k)⁻¹ * (ω ^ i) ^ m := by
        rw [horner_eq_sum, length_coefficients]
        exact Finset.sum_congr rfl fun m hm => by rw [hcoefficient m hm]
    _ = ∑ j ∈ Finset.range (2 ^ k), values.getD j 0 * (2 ^ k)⁻¹ *
          ∑ m ∈ Finset.range (2 ^ k), (ω ^ i * ω⁻¹ ^ j) ^ m := by
        simp only [Finset.sum_mul, Finset.mul_sum]
        rw [Finset.sum_comm]
        refine Finset.sum_congr rfl fun j _ => Finset.sum_congr rfl fun m _ => ?_
        ring
    _ = ∑ j ∈ Finset.range (2 ^ k), if i = j then values.getD j 0 else 0 := by
        refine Finset.sum_congr rfl fun j hj => ?_
        rw [hω.sum_pow hi (Finset.mem_range.mp hj), mul_ite, mul_zero, mul_assoc,
          inv_mul_cancel₀ hne, mul_one]
    _ = values.getD i 0 := by
        rw [Finset.sum_ite_eq, if_pos (Finset.mem_range.mpr hi)]

/-- There is a polynomial of a degree below the number of values that has them. -/
theorem interpolate_eq_ok {k : Nat} {ω : Scalar} (hω : HalfTurn k ω) {values : List Scalar}
    (hvalues : values.length = 2 ^ k) :
    ∃ f, interpolate values ω = .ok f ∧ f.degree < 2 ^ k ∧
      ∀ i < 2 ^ k, f.eval (ω ^ i) = values.getD i 0 := by
  refine ⟨Poly.ofCoeffs (coefficients k ω values), ?_, ?_, fun i hi => ?_⟩
  · rw [interpolate, backward_eq_ok hω hvalues]
    rfl
  · exact Poly.degree_ofCoeffs_lt (length_coefficients k ω values).le (by positivity)
  · rw [Poly.eval_ofCoeffs, horner_coefficients hω hvalues hi]

end Transform

end LiabilityProof
