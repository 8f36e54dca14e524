import LiabilityProof.Text.Decimal

/-!
# Why a document is not read

A syntax fault names the problem and the place where it was noticed: the number of characters
before it, and the line and column that number amounts to.
-/

namespace LiabilityProof

namespace Json

/-- What is wrong with a document. -/
inductive Problem where
  | expectingValue
  | expectingName
  | expectingColon
  | expectingComma
  | extraData
  | unterminatedText
  | controlCharacter
  | badEscape
  | badUnicodeEscape
  | byteOrderMark
deriving DecidableEq

/-- The words for a problem. -/
def Problem.message : Problem → String
  | expectingValue => "Expecting value"
  | expectingName => "Expecting property name enclosed in double quotes"
  | expectingColon => "Expecting ':' delimiter"
  | expectingComma => "Expecting ',' delimiter"
  | extraData => "Extra data"
  | unterminatedText => "Unterminated string starting at"
  | controlCharacter => "Invalid control character at"
  | badEscape => "Invalid \\escape"
  | badUnicodeEscape => "Invalid \\uXXXX escape"
  | byteOrderMark => "Unexpected UTF-8 BOM (decode using utf-8-sig)"

/-- A problem and its place. -/
structure SyntaxFault where
  /-- What is wrong. -/
  problem : Problem
  /-- The number of characters before the place. -/
  position : Nat
  /-- The line of the place, from one. -/
  line : Nat
  /-- The column of the place, from one. -/
  column : Nat
deriving DecidableEq

/-- The place after the first `position` characters of a document. -/
def SyntaxFault.at (document : List Char) (problem : Problem) (position : Nat) : SyntaxFault :=
  let before := document.take position
  { problem, position
    line := before.count '\n' + 1
    column := (before.reverse.takeWhile (· ≠ '\n')).length + 1 }

/-- The words for a fault and its place. -/
def SyntaxFault.message (f : SyntaxFault) : String :=
  f.problem.message ++ ": line " ++ Text.ofNat f.line ++ " column " ++ Text.ofNat f.column ++
    " (char " ++ Text.ofNat f.position ++ ")"

/-- Why a document is not read: its syntax, an integer with too many digits, or values inside
values to no end. -/
inductive Fault where
  | malformed (fault : SyntaxFault)
  | tooManyDigits (count : Nat)
  | tooDeep
deriving DecidableEq

end Json

end LiabilityProof
