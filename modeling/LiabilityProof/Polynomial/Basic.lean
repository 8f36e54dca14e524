import LiabilityProof.Field.Scalar

/-!
# Polynomials over the scalar field

A `Poly` is the list of its coefficients, lowest first, in canonical form: the list is never
empty, and its last entry is zero only when it is the whole list, the zero polynomial. Every
polynomial is made by `Poly.ofCoeffs`, which removes trailing zeros, so equality of polynomials
is equality of lists.

* `Poly.eval` is Horner's rule.
* `Poly.quotient` is synthetic division by `x - z`: the partial values of Horner's rule at `z`
  are the coefficients of the quotient, and the last of them, the value at `z`, is dropped.
-/

namespace LiabilityProof

/-- The list without the zeros at its end. -/
def trimZeros : List Scalar → List Scalar
  | [] => []
  | c :: cs =>
    match trimZeros cs with
    | [] => if c = 0 then [] else [c]
    | t => c :: t

theorem getLast?_trimZeros_ne (cs : List Scalar) : (trimZeros cs).getLast? ≠ some 0 := by
  induction cs with
  | nil => simp [trimZeros]
  | cons c cs ih =>
    unfold trimZeros
    split
    · split <;> simp_all
    next t ht =>
      cases h : trimZeros cs with
      | nil => exact absurd h (by simpa using ht)
      | cons d ds => rw [h] at ih; simpa using ih

/-- A polynomial in canonical form. -/
structure Poly where
  /-- The coefficients, lowest first. -/
  coeffs : List Scalar
  /-- There is a coefficient. -/
  coeffs_ne_nil : coeffs ≠ []
  /-- The leading coefficient is zero only in the zero polynomial. -/
  eq_zero_of_getLast? : coeffs.getLast? = some 0 → coeffs = [0]
deriving DecidableEq

namespace Poly

/-- The polynomial with the given coefficients, lowest first; trailing zeros do not count, and
no coefficients make the zero polynomial. -/
def ofCoeffs (cs : List Scalar) : Poly :=
  if h : trimZeros cs = [] then ⟨[0], by simp, fun _ => rfl⟩
  else ⟨trimZeros cs, h, fun hl => absurd hl (getLast?_trimZeros_ne cs)⟩

/-- The constant polynomial. -/
def constant (c : Scalar) : Poly := ofCoeffs [c]

instance : Zero Poly := ⟨constant 0⟩

instance : Inhabited Poly := ⟨0⟩

/-- The degree, zero for the zero polynomial. -/
def degree (f : Poly) : Nat := f.coeffs.length - 1

/-- Whether this is the zero polynomial. -/
def isZero (f : Poly) : Bool := decide (f.coeffs = [0])

/-- The value of a list of coefficients at a point, by Horner's rule. -/
def horner (x : Scalar) (cs : List Scalar) : Scalar :=
  cs.foldr (fun c value => value * x + c) 0

/-- The value at a point. -/
def eval (f : Poly) (x : Scalar) : Scalar := horner x f.coeffs

/-- The differences of the coefficients, the shorter list filled with zeros. -/
def subCoeffs : List Scalar → List Scalar → List Scalar
  | [], bs => bs.map (0 - ·)
  | as, [] => as
  | a :: as, b :: bs => (a - b) :: subCoeffs as bs

/-- The difference. -/
def sub (f g : Poly) : Poly := ofCoeffs (subCoeffs f.coeffs g.coeffs)

instance : Sub Poly := ⟨sub⟩

/-- The value at `z` of a list of coefficients, with the values at `z` of its proper tails: the
remainder and the quotient by `x - z`. -/
def divide (z : Scalar) : List Scalar → Scalar × List Scalar
  | [] => (0, [])
  | c :: cs =>
    let (value, quotient) := divide z cs
    (c + value * z, value :: quotient)

/-- The quotient by `x - z`, the remainder dropped. -/
def quotient (f : Poly) (z : Scalar) : Poly := ofCoeffs (divide z f.coeffs).2

end Poly

end LiabilityProof
