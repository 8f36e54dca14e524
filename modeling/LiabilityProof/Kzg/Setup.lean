import LiabilityProof.Kzg.Commitment
import LiabilityProof.Field.Domain

/-!
# The bound set-up

A circuit has one column for the identities and one for each currency, and one row for each
point of a domain. The number of currencies comes from outside and is only ever compared with
what there is, so it is kept as the value it was given as and need not be whole.

`TrustedSetup.bind` ties parameters to a circuit: it refuses parameters whose claimed degree is
below the last row, or that have no `τ·G₂`. The result is read only and is shared by everything
made from it.

The size of the domain is written into the name of a parameter file: `domainExponent` reads the
digits after the last hyphen.
-/

namespace LiabilityProof

/-- The prover's part of a set-up. -/
structure ProvingKey where
  /-- The rows. -/
  domain : Domain
  /-- The powers in the first group. -/
  powers1 : List G1Point
  /-- The number of columns, as it was asked for. -/
  columns : Datum

/-- The verifier's part of a set-up. -/
structure VerifyingKey where
  /-- The rows. -/
  domain : Domain
  /-- The zeroth and first power in the second group. -/
  powers2 : List G2Point
  /-- The number of columns, as it was asked for. -/
  columns : Datum

/-- Parameters bound to a circuit. -/
structure TrustedSetup where
  /-- The parameters. -/
  parameters : Parameters
  /-- The prover's part. -/
  provingKey : ProvingKey
  /-- The verifier's part. -/
  verifyingKey : VerifyingKey
  /-- The binary logarithm of the number of rows, as it was asked for. -/
  exponent : Datum
  /-- Where the parameters came from. -/
  provenance : Datum

namespace ProvingKey

/-- The largest degree the powers support. -/
def maxDegree (pk : ProvingKey) : Int := (pk.powers1.length : Int) - 1

/-- The committer's key. -/
def key (pk : ProvingKey) : CommitmentKey := ⟨pk.powers1, .integer pk.maxDegree⟩

end ProvingKey

namespace TrustedSetup

/-- The rows. -/
def domain (s : TrustedSetup) : Domain := s.verifyingKey.domain

/-- The number of columns. -/
def columns (s : TrustedSetup) : Datum := s.verifyingKey.columns

/-- The number of currencies, one less than that of columns. -/
def currencies (s : TrustedSetup) : Datum := (s.columns.plus? (-1)).getD .null

/-- The number of columns for a number of currencies, which has to be at least one. -/
def columnsFor (currencies : Datum) : Except Failure Datum :=
  match currencies.compareInteger? 1, currencies.plus? 1 with
  | some (some .lt), _ =>
    .error (.showing [currencies] (.tooFewCurrencies currencies))
  | some _, some columns => .ok columns
  | _, _ => .error .wrongShape

/-- The parameters bound to a circuit of `2 ^ k` rows. -/
def bind (p : Parameters) (k currencies provenance : Datum) : Except Failure TrustedSetup := do
  let columns ← columnsFor currencies
  let domain ← Domain.ofDatum k
  match p.maxDegree.compareInteger? ((domain.size : Int) - 1) with
  | none => .error .wrongShape
  | some (some .lt) =>
    .error (.showing p.maxDegree.ifNegative (.parametersTooShort p.maxDegree domain.size))
  | some _ =>
    if p.powers2.length < 2 then .error .missingTau
    else
      pure
        { parameters := p
          provingKey := ⟨domain, p.powers1, columns⟩
          verifyingKey := ⟨domain, p.powers2.take 2, columns⟩
          exponent := k
          provenance }

end TrustedSetup

/-- The characters after the last hyphen. -/
def afterLastHyphen (cs : List Char) : List Char :=
  (cs.reverse.takeWhile (· ≠ '-')).reverse

/-- The exponent that the name of a parameter file ends in. A value that is no text is taken for
the text that shows it, if one does. -/
def domainExponent (provenance : Datum) : Except Failure Nat :=
  match provenance.obstacle? with
  | some obstacle => .error (.ofObstacle obstacle)
  | none =>
    let digits := afterLastHyphen provenance.display.toList
    if Text.isDigits digits = false then .error (.noDomainExponent provenance)
    else if Text.maxDigits < digits.length then
      .error (.numeral (.tooManyDigits digits.length))
    else
      let k := Text.ofDigits 10 (digits.filterMap (Text.digitValue? 10))
      if Scalar.maxDomainExponent < k then .error (.domainExponentTooLarge k) else .ok k

end LiabilityProof
