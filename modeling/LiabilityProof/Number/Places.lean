import LiabilityProof.Number.Double
import LiabilityProof.Text.Decimal

/-!
# Whole numbers written with decimals

Three ways to write a whole number with a chosen number of decimals: with all of its digits
(`fixed`), as a digit with decimals and a power of ten (`scientific`), and in the shorter way of
the two with a chosen number of significant digits (`general`), where decimals that are zero are
left out. A number is rounded to the nearest one that has the digits, a tie to the even one.

`rounded` is what a double makes of a whole number before it is written.
-/

namespace LiabilityProof

namespace Places

/-- The nearest whole number that a double holds; `none` beyond all doubles. -/
def rounded (n : Nat) : Option Nat := ((Double.ofRatio false n 1).truncate?).map Int.toNat

/-- The point and the decimals behind it; a point that nothing follows is kept on demand. -/
def fraction (keepsPoint : Bool) (decimals : List Char) : List Char :=
  if decimals.isEmpty && !keepsPoint then [] else '.' :: decimals

/-- All digits of a number, and decimals. -/
def fixed (keepsPoint : Bool) (decimals n : Nat) : List Char :=
  Text.decimal n ++ fraction keepsPoint (List.replicate decimals '0')

/-- The first `decimals + 1` digits of a number, rounded, and the power of ten of the first. -/
def leading (decimals n : Nat) : List Char × Nat :=
  let digits := Text.decimal n
  let power := digits.length - 1
  if power ≤ decimals then (digits ++ List.replicate (decimals - power) '0', power)
  else
    let kept := Text.decimal (Double.roundDiv n (Nat.pow 10 (power - decimals)))
    if decimals + 1 < kept.length then (kept.take (decimals + 1), power + 1) else (kept, power)

/-- The digits of a power of ten, two at least. -/
def powerDigits (power : Nat) : List Char :=
  if power < 10 then ['0', Text.digitChar power] else Text.decimal power

/-- The spelling of digits, the first of which has the given power of ten; `mark` stands before
the power. -/
def spelled (keepsPoint : Bool) (mark : Char) (digits : List Char) (power : Nat) : List Char :=
  digits.take 1 ++ fraction keepsPoint (digits.drop 1) ++ mark :: '+' :: powerDigits power

/-- A digit with decimals and a power of ten. -/
def scientific (keepsPoint : Bool) (mark : Char) (decimals n : Nat) : List Char :=
  let (digits, power) := leading decimals n
  spelled keepsPoint mark digits power

/-- The digits without zeros at their end. -/
def withoutZeros (digits : List Char) : List Char :=
  (digits.reverse.dropWhile (· = '0')).reverse

/-- The shorter way with a number of significant digits. -/
def general (keepsZeros : Bool) (mark : Char) (significant n : Nat) : List Char :=
  let significant := max significant 1
  let (digits, power) := leading (significant - 1) n
  if power < significant then
    fixed keepsZeros (if keepsZeros then significant - 1 - power else 0) n
  else
    spelled keepsZeros mark
      (if keepsZeros then digits else digits.take 1 ++ withoutZeros (digits.drop 1)) power

end Places

end LiabilityProof
