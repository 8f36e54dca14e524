/-!
# Powers by repeated squaring

`squaringPower a n` halves the exponent and squares the base. It is the `n`-th power in every
type whose product is associative with unit `1`; the number of products is at most twice the
number of binary digits of `n`.
-/

namespace LiabilityProof

/-- The power with a natural exponent, by halving the exponent and squaring the base. -/
@[specialize]
def squaringPower {α : Type} [One α] [Mul α] (a : α) (n : Nat) : α :=
  if n = 0 then 1
  else if n % 2 = 1 then squaringPower (a * a) (n / 2) * a
  else squaringPower (a * a) (n / 2)
termination_by n

end LiabilityProof
