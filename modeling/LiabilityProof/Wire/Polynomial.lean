import LiabilityProof.Polynomial.Basic
import LiabilityProof.Wire.Integer

/-!
# Polynomials from untrusted values

A polynomial is the sequence of its coefficients, lowest first, each an integer or a field
element; nothing and the empty sequence are the zero polynomial. Where a polynomial is taken
away or compared, an integer or a field element counts as that constant.
-/

namespace LiabilityProof

namespace Wire

/-- The polynomial with the given coefficients. -/
def polynomial (d : Datum) : Except Failure Poly :=
  if d.isPresent then do
    let coeffs ← (← d.elements).mapM Datum.residue
    pure (Poly.ofCoeffs coeffs)
  else pure 0

/-- The polynomial that a value is as an operand, if it is one. -/
def operand? : Datum → Except Failure (Option Poly)
  | .array xs => (polynomial (.array xs)).map some
  | .scalar a => .ok (some (Poly.constant a))
  | d => .ok (d.asInteger?.map fun n => Poly.constant (Residue.ofInt n))

/-- The difference of a polynomial and an operand. -/
def subtract (f : Poly) (d : Datum) : Except Failure Poly := do
  match ← operand? d with
  | some g => pure (f - g)
  | none => .error .noSuchProperty

/-- Whether a polynomial equals an operand. -/
def equals (f : Poly) (d : Datum) : Except Failure Bool := do
  match ← operand? d with
  | some g => pure (decide (f = g))
  | none => pure false

end Wire

end LiabilityProof
