import LiabilityProof.Number.Double

/-!
# The shortest decimal of a double

Among the decimals that round to a given double, `Double.shortest` takes one with the fewest
digits, and of those the nearest to the double itself, a tie going to the even digit. The
decimals of `n` digits form a grid around the value; if any point of the grid rounds to the
double, one of the value's two neighbours on it does, so for `n = 1, 2, …` only those two are
tried. Seventeen digits always suffice.
-/

namespace LiabilityProof

namespace Double

/-- The number `k` with `10 ^ (k - 1) ≤ n / d < 10 ^ k`, for positive `n` and `d`. -/
def decimalPoint (n d : Nat) : Int :=
  if d ≤ n then
    (((List.range 400).find? fun k => decide (n < d * Nat.pow 10 k)).getD 0 : Nat)
  else
    -(((List.range 400).find? fun j => decide (d ≤ n * Nat.pow 10 (j + 1))).getD 0 : Nat)

/-- The decimals that round to `m · 2 ^ e` fill the interval from `lower` to `upper`, both given
as multiples of a quarter of `2 ^ e`. A significand at the lower end of its range is nearer to
its lower neighbour. -/
def roundingInterval (m : Nat) (e : Int) : Nat × Nat :=
  (if m = Nat.pow 2 52 ∧ minExponent < e then 4 * m - 1 else 4 * m - 2, 4 * m + 2)

/-- Whether the decimal `c · 10 ^ x` rounds to `m · 2 ^ e`; the ends of the interval do exactly
when the significand is even. -/
def readsBack (m : Nat) (e : Int) (c : Nat) (x : Int) : Bool :=
  let (lower, upper) := roundingInterval m e
  -- both sides multiplied by `4 · 10 ^ (-x) · 2 ^ (-e)` as far as these are naturals
  let point := 4 * c * Nat.pow 10 x.toNat * Nat.pow 2 (-e).toNat
  let scale := Nat.pow 10 (-x).toNat * Nat.pow 2 e.toNat
  if m % 2 = 0 then decide (lower * scale ≤ point) && decide (point ≤ upper * scale)
  else decide (lower * scale < point) && decide (point < upper * scale)

/-- The digits of `n` decimal places that read back, as a number with its power of ten. -/
def shortestWith (m : Nat) (e : Int) (places : Nat) : Option (Nat × Int) :=
  let (n, d) := ratio m e
  let x := decimalPoint n d - places
  let num := n * Nat.pow 10 (-x).toNat
  let den := d * Nat.pow 10 x.toNat
  let below := num / den
  let above := below + 1
  match readsBack m e below x, readsBack m e above x with
  | false, false => none
  | true, false => some (below, x)
  | false, true => some (above, x)
  | true, true => some (roundDiv num den, x)

/-- The shortest decimal that rounds to the positive double `m · 2 ^ e`: a number and its power
of ten. -/
def shortest (m : Nat) (e : Int) : Nat × Int :=
  ((List.range 17).findSome? fun i => shortestWith m e (i + 1)).getD (m, 0)

end Double

end LiabilityProof
