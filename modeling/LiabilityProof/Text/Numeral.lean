import LiabilityProof.Text.Digit
import LiabilityProof.Text.Quoted

/-!
# Reading integers

A numeral is a sign and a run of digits, with blanks of any script around it, single
underscores between digits, and digits of any script. In base sixteen the digits may follow a
mark `0x`, which one underscore may follow in turn.

A decimal numeral of more than `maxDigits` digits is refused, whatever its value; so is the
writing of a number that needs more. Bases that are powers of two have no such limit. The digits
are counted before anything behind them is looked at, so a text that starts with too many is
refused for their number even if it is no numeral.
-/

namespace LiabilityProof

/-- Why a text is not read as an integer. -/
inductive NumeralFault where
  /-- The text is no numeral of the base. -/
  | malformed (base : Nat) (text : String)
  /-- The numeral has too many digits. -/
  | tooManyDigits (count : Nat)
deriving DecidableEq

/-- The words for a refused numeral. Of the text, the quoted form is shown up to its
two-hundredth character. -/
def NumeralFault.message : NumeralFault → String
  | malformed base text =>
    "invalid literal for int() with base " ++ Text.ofNat base ++ ": " ++
      String.ofList ((Text.quoted text.toList).take 200)
  | tooManyDigits count =>
    "Exceeds the limit (4300 digits) for integer string conversion: value has " ++
      Text.ofNat count ++
      " digits; use sys.set_int_max_str_digits() to increase the limit"

namespace Text

/-- The largest number of digits of a decimal numeral. -/
def maxDigits : Nat := 4300

/-- Whether an integer needs more digits than a numeral may have. -/
def isTooLong (n : Int) : Bool := decide (Nat.pow 10 maxDigits ≤ n.natAbs)

/-- Whether a character can belong to a run of digits. -/
def isRunChar (base : Nat) (c : Char) : Bool := c = '_' || (digitValue? base c).isSome

/-- The values of a run of digits with single underscores between them. -/
def digitRun (base : Nat) : List Char → Option (List Nat)
  | [] => none
  | [c] => (digitValue? base c).map fun d => [d]
  | c :: '_' :: rest => (digitValue? base c).bind fun d => (digitRun base rest).map (d :: ·)
  | c :: rest => (digitValue? base c).bind fun d => (digitRun base rest).map (d :: ·)

/-- The sign in front of a numeral: whether it is negative, and what follows. -/
def splitSign : List Char → Bool × List Char
  | '-' :: rest => (true, rest)
  | '+' :: rest => (false, rest)
  | cs => (false, cs)

/-- What follows the mark of base sixteen, or the whole text where there is none. -/
def dropHexMark : List Char → List Char
  | '0' :: x :: rest =>
    if x = 'x' ∨ x = 'X' then
      match rest with
      | '_' :: rest' => rest'
      | _ => rest
    else '0' :: x :: rest
  | cs => cs

/-- The integer that a text is a numeral of, in base ten or sixteen. -/
def readInteger (base : Nat) (text : String) : Except NumeralFault Int :=
  let (negative, unsigned) := splitSign ((text.toList.map plain).dropWhile isAsciiBlank)
  let body := if base = 16 then dropHexMark unsigned else unsigned
  match digitRun base (body.takeWhile (isRunChar base)) with
  | none => .error (.malformed base text)
  | some digits =>
    if base = 10 ∧ maxDigits < digits.length then .error (.tooManyDigits digits.length)
    else if ((body.dropWhile (isRunChar base)).all isAsciiBlank) = false then
      .error (.malformed base text)
    else
      let n : Int := ofDigits base digits
      .ok (if negative then -n else n)

/-- Whether a text is a non-empty run of ASCII digits. -/
def isDigits (cs : List Char) : Bool := !cs.isEmpty && cs.all isAsciiDigit

end Text

end LiabilityProof
