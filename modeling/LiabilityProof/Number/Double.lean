/-!
# Binary floating-point numbers

A `Double` is a number of 53 significant bits, held exactly: `finite negative m e` is
`± m · 2 ^ e`. Nothing here is computed in floating point. A decimal is rounded to the nearest
double (`Double.ofDecimal`, ties to the even significand) by exact division of naturals, and a
double is compared with an integer, or cut down to one, as the rational number it is; sums and
remainders are rounded once, as everything that is made here.

Every finite double made here has `m < 2 ^ 53` and `-1074 ≤ e ≤ 971`, with `2 ^ 52 ≤ m` unless
`e = -1074`; so two doubles of one value and one sign are equal.
-/

namespace LiabilityProof

/-- A binary floating-point number: `± m · 2 ^ e`, an infinity, or not a number. -/
inductive Double where
  | finite (negative : Bool) (significand : Nat) (exponent : Int)
  | infinite (negative : Bool)
  | nan
deriving DecidableEq

namespace Double

/-- The smallest exponent. -/
def minExponent : Int := -1074

/-- The largest exponent. -/
def maxExponent : Int := 971

/-- The quotient rounded to the nearest natural, a tie to the even one. -/
def roundDiv (n d : Nat) : Nat :=
  let q := n / d
  let r := n % d
  if 2 * r < d then q
  else if d < 2 * r then q + 1
  else if q % 2 = 0 then q else q + 1

/-- The nearest double to the positive rational `n / d`. -/
def ofRatio (negative : Bool) (n d : Nat) : Double :=
  let atLeast : Int := (n.log2 : Int) - (d.log2 : Int) - 52
  let scaled (e : Int) : Nat :=
    if 0 ≤ e then roundDiv n (d * Nat.pow 2 e.toNat)
    else roundDiv (n * Nat.pow 2 (-e).toNat) d
  let fits (e : Int) : Bool :=
    if 0 ≤ e then decide (Nat.pow 2 52 * (d * Nat.pow 2 e.toNat) ≤ n)
    else decide (Nat.pow 2 52 * d ≤ n * Nat.pow 2 (-e).toNat)
  let e := max minExponent (if fits atLeast then atLeast else atLeast - 1)
  let m := scaled e
  let (m, e) := if m = Nat.pow 2 53 then (Nat.pow 2 52, e + 1) else (m, e)
  if maxExponent < e then infinite negative else finite negative m e

/-- The nearest double to the decimal `± digits · 10 ^ exponent`. Decimals beyond the range are
told by their size alone, so no power of ten is formed that a short text could make huge. -/
def ofDecimal (negative : Bool) (digits : Nat) (exponent : Int) : Double :=
  if digits = 0 then finite negative 0 minExponent
  else
    let magnitude : Int := (digits.log2 : Int) * 30103 / 100000 + exponent
    if 400 < magnitude then infinite negative
    else if magnitude < -500 then finite negative 0 minExponent
    else if 0 ≤ exponent then ofRatio negative (digits * Nat.pow 10 exponent.toNat) 1
    else ofRatio negative digits (Nat.pow 10 (-exponent).toNat)

/-- The numerator and denominator of the absolute value of a finite double. -/
def ratio (m : Nat) (e : Int) : Nat × Nat :=
  if 0 ≤ e then (m * Nat.pow 2 e.toNat, 1) else (m, Nat.pow 2 (-e).toNat)

/-- The integer part, toward zero; `none` for the infinities and for what is no number. -/
def truncate? : Double → Option Int
  | finite negative m e =>
    let (n, d) := ratio m e
    some (if negative then -((n / d : Nat) : Int) else ((n / d : Nat) : Int))
  | infinite _ => none
  | nan => none

/-- The sum of a double and an integer, rounded. -/
def plus (x : Double) (k : Int) : Double :=
  match x with
  | finite negative m e =>
    let (n, d) := ratio m e
    let sum : Int := (if negative then -(n : Int) else n) + k * d
    if sum = 0 then finite false 0 minExponent else ofRatio (decide (sum < 0)) sum.natAbs d
  | other => other

/-- The remainder by a modulus, of which the nearest double is taken: not negative, and rounded
where the number was; `none` for the infinities and for what is no number. -/
def modulo? (x : Double) (modulus : Nat) : Option Double :=
  match x, ofRatio false modulus 1 with
  | finite negative m e, finite _ m' e' =>
    let (n, d) := ratio m e
    let (w, _) := ratio m' e'
    let r := n % (w * d)
    some <|
      if r = 0 then finite false 0 minExponent
      else if negative then ofRatio false (w * d - r) d
      else ofRatio false r d
  | _, _ => none

/-- The natural number that repeated halving takes a double for: itself if it is whole, and
otherwise the odd one of the two that it shares its half with. A negative double counts as
zero. -/
def halves? : Double → Option Nat
  | finite negative m e =>
    let (n, d) := ratio m e
    some (if negative then 0 else if n % d = 0 then n / d else 2 * (n / (2 * d)) + 1)
  | _ => none

/-- Whether an integer lies beyond the doubles. -/
def isBeyond (n : Int) : Bool := ofRatio false n.natAbs 1 = infinite false

/-- The order of a double and an integer; `none` for what is no number. -/
def compareInt? (x : Double) (k : Int) : Option Ordering :=
  match x with
  | finite negative m e =>
    let (n, d) := ratio m e
    let n : Int := if negative then -(n : Int) else n
    some (compare n (k * d))
  | infinite negative => some (if negative then .lt else .gt)
  | nan => none

/-- The order of two doubles; `none` if one of them is no number. -/
def compare? (x y : Double) : Option Ordering :=
  match x, y with
  | nan, _ | _, nan => none
  | infinite a, infinite b => some (compare b.toNat a.toNat)
  | infinite a, _ => some (if a then .lt else .gt)
  | _, infinite b => some (if b then .gt else .lt)
  | finite a m e, finite b n f =>
    let (m, d) := ratio m e
    let (n, c) := ratio n f
    let m : Int := if a then -(m : Int) else m
    let n : Int := if b then -(n : Int) else n
    some (compare (m * c) (n * d))

/-- Whether the two numbers are equal: zeros of both signs are, and what is no number equals
nothing. -/
def same (x y : Double) : Bool :=
  match x, y with
  | nan, _ => false
  | finite _ 0 _, finite _ 0 _ => true
  | _, _ => decide (x = y)

end Double

end LiabilityProof
