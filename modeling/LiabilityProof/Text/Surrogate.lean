import LiabilityProof.Text.Decimal
import LiabilityProof.Text.Quoted

/-!
# Code points that are no characters

A name from outside is a sequence of code points. Those from `0xD800` to `0xDFFF` are the halves of
pairs and stand for no character: a sequence with one of them is no text, and has no UTF-8. The
first halves that stand together are named in the message.
-/

namespace LiabilityProof

namespace Text

/-- Whether a code point is half of a pair. -/
def isSurrogate (point : Nat) : Bool := decide (0xD800 ≤ point) && decide (point < 0xE000)

/-- Code points that are no text. -/
structure Broken where
  /-- The code points. -/
  points : List Nat
  /-- One of them is half of a pair. -/
  any_isSurrogate : points.any isSurrogate = true

namespace Broken

/-- The position of the first half. -/
def position (b : Broken) : Nat := (b.points.takeWhile fun p => !isSurrogate p).length

/-- The halves that stand together from there on. -/
def halves (b : Broken) : List Nat := (b.points.drop b.position).takeWhile isSurrogate

/-- Why there is no UTF-8. -/
def message (b : Broken) : String :=
  let place :=
    match b.halves with
    | [half] =>
      " '\\u" ++ String.ofList (hexDigits 4 half) ++ "' in position " ++ ofNat b.position
    | halves =>
      "s in position " ++ ofNat b.position ++ "-" ++ ofNat (b.position + halves.length - 1)
  "'utf-8' codec can't encode character" ++ place ++ ": surrogates not allowed"

end Broken

end Text

end LiabilityProof
