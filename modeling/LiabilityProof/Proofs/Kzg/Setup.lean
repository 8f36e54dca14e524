import LiabilityProof.Kzg.Setup
import LiabilityProof.Proofs.Field.Roots
import LiabilityProof.Proofs.Kzg.Opening
import LiabilityProof.Proofs.Outcome

/-!
# Set-ups made from honest parameters

`TrustedSetup.bind` keeps the parameters, hands their powers to the two keys, and checks that the
claimed degree reaches the last row. For parameters made from a secret the two committing keys,
that of the parameters and that of the prover, are therefore one key, and it commits to every
column of the domain.
-/

namespace LiabilityProof

/-- Whether a value is a number does not depend on what it is compared with. -/
theorem Datum.compareInteger?_eq_none_iff {d : Datum} {m n : Int} :
    d.compareInteger? m = none ↔ d.compareInteger? n = none := by
  cases d <;> simp [compareInteger?, asInteger?]

namespace TrustedSetup

/-- A set-up whose keys hold the powers of a secret, up to a degree that reaches the last row. -/
structure Honest (E : PairingGroups) (τ : Scalar) (d : Nat) (setup : TrustedSetup) : Prop where
  /-- The key of the parameters. -/
  parameters_key : setup.parameters.key = .ofSecret E τ d
  /-- The prover's key. -/
  provingKey_key : setup.provingKey.key = .ofSecret E τ d
  /-- The verifier's powers. -/
  powers2 : setup.verifyingKey.powers2 = [E.second.generator, E.second.multiple τ]
  /-- The degree reaches the last row. -/
  size_le : setup.domain.size ≤ d + 1

variable {E : PairingGroups} {τ : Scalar} {p : Parameters} {k currencies provenance : Datum}
  {setup : TrustedSetup}

/-! ### The number of columns -/

theorem columnsFor_of_lt {n : Int} (hn : n < 1) :
    columnsFor (.integer n) = .error (if Text.isTooLong n then .numeralTooLong
      else .tooFewCurrencies (.integer n)) := by
  have hcompare : (Datum.integer n).compareInteger? 1 = some (some .lt) :=
    congrArg (some ∘ some) (compare_lt_iff_lt.mpr hn)
  rw [columnsFor, hcompare, ← Failure.showing_integer]

/-- One column for each currency, and one for the identities. -/
theorem columnsFor_of_le {n : Int} (hn : 1 ≤ n) :
    columnsFor (.integer n) = .ok (.integer (n + 1)) := by
  have hne : compare n 1 ≠ .lt := compare_ge_iff_ge.mpr hn
  rw [columnsFor]
  split
  next h => exact absurd (Option.some.inj (Option.some.inj h)) hne
  next _ columns _ hplus => exact congrArg Except.ok (Option.some.inj hplus).symm
  next h => exact absurd rfl (h _ _ rfl)

theorem columnsFor_of_bind (h : bind p k currencies provenance = .ok setup) :
    columnsFor currencies = .ok setup.columns := by
  obtain ⟨columns, hcolumns, h⟩ := LiabilityProof.bind_eq_ok_iff.mp h
  obtain ⟨domain, -, h⟩ := LiabilityProof.bind_eq_ok_iff.mp h
  split at h
  · exact absurd h (by simp)
  · exact absurd h (by simp)
  · split at h
    · exact absurd h (by simp)
    · obtain rfl := Except.ok.inj h
      exact hcolumns

/-! ### Binding -/

/-- What it takes to bind parameters whose degree is whole, and what becomes of them. -/
theorem bind_eq_ok_iff {d : Int} (hd : p.maxDegree = .integer d) :
    bind p k currencies provenance = .ok setup ↔
      ∃ columns domain, columnsFor currencies = .ok columns ∧ Domain.ofDatum k = .ok domain ∧
        (domain.size : Int) - 1 ≤ d ∧ 2 ≤ p.powers2.length ∧
        setup = ⟨p, ⟨domain, p.powers1, columns⟩, ⟨domain, p.powers2.take 2, columns⟩, k,
          provenance⟩ := by
  have hcompare : ∀ n : Int,
      p.maxDegree.compareInteger? n = some (some (compare d n)) := by
    intro n
    rw [hd]
    rfl
  simp only [bind, LiabilityProof.bind_eq_ok_iff, hcompare]
  refine exists_congr fun columns => ?_
  rw [← exists_and_left]
  refine exists_congr fun domain => and_congr_right fun _ => and_congr_right fun _ => ?_
  -- both sides check the degree first, then the powers for the verifier
  rcases lt_or_ge d ((domain.size : Int) - 1) with hlt | hge
  · rw [compare_lt_iff_lt.mpr hlt]
    exact iff_of_false (by simp) fun h => absurd h.1 (not_le.mpr hlt)
  · have hne : compare d ((domain.size : Int) - 1) ≠ .lt := compare_ge_iff_ge.mpr hge
    split
    next h => exact absurd h (by simp)
    next h => exact absurd (Option.some.inj (Option.some.inj h)) hne
    next =>
      split
      next htau => exact iff_of_false (by simp) fun h => absurd h.2.1 (not_le.mpr htau)
      next htau =>
        constructor
        · intro h
          exact ⟨hge, not_lt.mp htau, (Except.ok.inj h).symm⟩
        · rintro ⟨-, -, rfl⟩
          rfl

/-- Parameters that reach the last row can be bound. -/
theorem exists_bind_eq_ok (E : PairingGroups) (τ : Scalar) {k currencies : Nat}
    (hk : k ≤ Scalar.maxDomainExponent) (hcurrencies : 1 ≤ currencies) {d : Int}
    (hd : ((2 ^ k : Nat) : Int) - 1 ≤ d) (provenance : Datum) :
    ∃ setup, bind (Parameters.generate E τ d) (.integer k) (.integer currencies) provenance =
        .ok setup ∧
      setup.domain = ⟨k, Scalar.twoPowerRoot k⟩ ∧
      setup.columns = .integer (currencies + 1 : Nat) := by
  have hcolumns : columnsFor (.integer currencies) = .ok (.integer (currencies + 1 : Nat)) :=
    columnsFor_of_le (by exact_mod_cast hcurrencies)
  exact ⟨_, (bind_eq_ok_iff rfl).mpr ⟨_, _, hcolumns, Domain.ofDatum_natCast hk, hd, le_rfl, rfl⟩,
    rfl, rfl⟩

/-- Binding honest parameters makes an honest set-up. -/
theorem honest_of_bind {d : Int}
    (h : bind (Parameters.generate E τ d) k currencies provenance = .ok setup) :
    ∃ n : Nat, d = n ∧ setup.Honest E τ n := by
  obtain ⟨columns, domain, -, -, hsize, -, rfl⟩ := (bind_eq_ok_iff rfl).mp h
  have hpos : 0 < domain.size := Nat.two_pow_pos domain.exponent
  obtain ⟨n, rfl⟩ := Int.eq_ofNat_of_zero_le (by omega : 0 ≤ d)
  refine ⟨n, rfl, rfl, ?_, rfl, ?_⟩
  · -- the prover's key takes its degree from the number of powers
    have hlength : ((Parameters.generate E τ n).powers1.length : Int) - 1 = n := by
      rw [Parameters.generate, List.length_map, Parameters.length_powersFrom]
      omega
    rw [ProvingKey.key, ProvingKey.maxDegree, hlength]
    rfl
  · have hsize' : ((2 ^ domain.exponent : Nat) : Int) - 1 ≤ n := hsize
    change 2 ^ domain.exponent ≤ n + 1
    omega

end TrustedSetup

end LiabilityProof
