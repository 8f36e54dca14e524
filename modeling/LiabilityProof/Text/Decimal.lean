/-!
# Decimal numerals

`decimal n` writes a natural number in base ten, most significant digit first and without
leading zeros; `ofDigits` reads a list of digit values in any base.
-/

namespace LiabilityProof

namespace Text

/-- The decimal digit of a number below ten. -/
def digitChar (d : Nat) : Char := Char.ofNat (48 + d)

/-- The decimal digits of `n` in front of `tail`. -/
def decimalOnto (n : Nat) (tail : List Char) : List Char :=
  if n < 10 then digitChar n :: tail
  else decimalOnto (n / 10) (digitChar (n % 10) :: tail)
termination_by n

/-- The decimal digits of a natural number. -/
def decimal (n : Nat) : List Char := decimalOnto n []

/-- The decimal digits of an integer, after a sign if it is negative. -/
def integer : Int → List Char
  | .ofNat n => decimal n
  | .negSucc n => '-' :: decimal (n + 1)

/-- The decimal text of a natural number. -/
def ofNat (n : Nat) : String := String.ofList (decimal n)

/-- The decimal text of an integer. -/
def ofInt (n : Int) : String := String.ofList (integer n)

/-- The number with the given digit values, most significant first. -/
def ofDigits (base : Nat) (digits : List Nat) : Nat :=
  digits.foldl (fun acc d => acc * base + d) 0

theorem ofDigits_cons (base d : Nat) (digits : List Nat) :
    ofDigits base (d :: digits) = d * Nat.pow base digits.length + ofDigits base digits := by
  -- what has been read so far is shifted by all digits to come
  have hshift : ∀ acc, digits.foldl (fun acc d => acc * base + d) acc =
      acc * Nat.pow base digits.length + ofDigits base digits := by
    induction digits with
    | nil => intro acc; exact (Nat.mul_one acc).symm
    | cons e digits ih =>
      intro acc
      have hpow : Nat.pow base (digits.length + 1) = base * Nat.pow base digits.length :=
        Nat.pow_succ'
      rw [ofDigits, List.foldl_cons, List.foldl_cons, ih, ih, List.length_cons, hpow,
        Nat.zero_mul, Nat.zero_add, Nat.add_mul, Nat.mul_assoc, Nat.add_assoc]
  rw [ofDigits, List.foldl_cons, hshift, Nat.zero_mul, Nat.zero_add]

/-- Whether a character is one of the ten digits of ASCII. -/
def isAsciiDigit (c : Char) : Bool := decide ('0' ≤ c) && decide (c ≤ '9')

/-- The value of a digit in a base of at most sixteen, letters of both cases included. -/
def digitValue? (base : Nat) (c : Char) : Option Nat :=
  let value :=
    if isAsciiDigit c then c.toNat - 48
    else if 'a' ≤ c ∧ c ≤ 'f' then c.toNat - 87
    else if 'A' ≤ c ∧ c ≤ 'F' then c.toNat - 55
    else base
  if value < base then some value else none

end Text

end LiabilityProof
