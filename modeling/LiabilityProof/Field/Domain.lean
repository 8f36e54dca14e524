import LiabilityProof.Failure

/-!
# Roots of unity and evaluation domains

A ledger of at most `2 ^ k` users is laid out over the powers of one root of unity: user `i`
stands at `ω ^ i`. `rootOfUnity` gives the root for an order that is a power of two and at most
`2 ^ 28`, as a power of the field's generator, and refuses every other order.
-/

namespace LiabilityProof

namespace Scalar

/-- Whether a positive number is a power of two, and so has no binary digit in common with its
predecessor. -/
def isPowerOfTwo (n : Nat) : Bool := decide (n &&& (n - 1) = 0)

/-- The root of unity of order `n`, where `given` is the order as a message shows it. -/
def rootOfOrder (given : Datum) (n : Int) : Except Failure Scalar :=
  if n < 1 ∨ isPowerOfTwo n.toNat = false then
    .error (.showing [given] (.notPowerOfTwo given))
  else if Nat.pow 2 maxDomainExponent < n.toNat then
    .error (.showing [.integer n] (.orderTooLarge n))
  else if n = 1 then .ok 1
  else .ok (generator ^ ((groupOrder - 1) / n.toNat))

/-- The root of unity of order `n`. -/
def rootOfUnity (n : Int) : Except Failure Scalar := rootOfOrder (.integer n) n

/-- The root of unity whose order an untrusted value gives. A floating-point number below one is
no order, and every other is no integer. -/
def rootOfDatum (given : Datum) : Except Failure Scalar :=
  match given, given.asInteger? with
  | _, some n => rootOfOrder given n
  | .double x, none =>
    if x.compareInt? 1 == some .lt then .error (.notPowerOfTwo given) else .error .wrongShape
  | _, none => .error .wrongShape

end Scalar

/-- The subgroup of order `2 ^ exponent`, by its generator. -/
structure Domain where
  /-- The binary logarithm of the number of rows. -/
  exponent : Nat
  /-- The generator. -/
  root : Scalar
deriving DecidableEq

namespace Domain

/-- The number of rows. -/
def size (d : Domain) : Nat := Nat.pow 2 d.exponent

/-- The point of a row. -/
def point (d : Domain) (row : Nat) : Scalar := d.root ^ row

/-- Why there is no domain of `2 ^ k` rows where `k` is too large for one. A message shows the
number of rows if it can be written; beyond that the number cannot even be held. -/
def refusal (k : Nat) : Failure :=
  if k < Nat.pow 2 15 then
    let rows : Int := (Nat.pow 2 k : Nat)
    .showing [.integer rows] (.orderTooLarge rows)
  else if k < Nat.pow 2 38 then .numeralTooLong
  else if k < 30 * (Nat.pow 2 61 - 7) then .tooMuch
  else .tooWide

/-- The domain of `2 ^ k` rows. -/
def ofExponent (k : Int) : Except Failure Domain :=
  if k < 0 then .error .negativeShift
  else if Scalar.maxDomainExponent < k.toNat then .error (refusal k.toNat)
  else (Scalar.rootOfUnity (Nat.pow 2 k.toNat : Nat)).map fun root => ⟨k.toNat, root⟩

/-- The domain whose exponent an untrusted value gives. -/
def ofDatum (k : Datum) : Except Failure Domain :=
  match k.asInteger? with
  | some k => ofExponent k
  | none => .error .wrongShape

end Domain

end LiabilityProof
